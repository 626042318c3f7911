import UrbanFlow.Metering.PyValue

/-!
# The entry metering validator

`validate_entry_metering`: every issue of a configuration, in the order the
validator finds them. One definition reports a field out of its range; each
field gives it its own label, range and path.
-/

namespace UrbanFlow

/-- A typed issue. -/
structure MeteringValidationIssue where
  code : String
  message : PyMessage
  path : String

namespace MeteringValidator

abbrev Issues : Type := List MeteringValidationIssue

/-- The keys a section may not have, each reported. -/
def unknownFields (allowed : List String) (owner : PyMessage) (path : String)
    (fields : Fields) : Issues :=
  (fields.sortedKeys.filter (· ∉ allowed)).map fun key =>
    { code := "metering.unknown_field"
      message := owner ++ [.text " has unknown field: ", .repr (.str key)]
      path := path ++ "." ++ key }

/-- A value that must be a number in a range. -/
def rangeIssues (label : PyMessage) (path kind range : String) (inRange : ℚ → Bool)
    (value : PyValue) : Issues :=
  match value.number with
  | none =>
    [{ code := "metering.not_a_number"
       message := label ++ [.text (" must be " ++ kind ++ "; got "), .repr value]
       path := path }]
  | some x =>
    if inRange x then []
    else
      [{ code := "metering.out_of_bounds"
         message := label ++ [.text " (", .general x, .text (") must be in " ++ range)]
         path := path }]

/-- An optional number: null is as good as absent. -/
def optionalIssues (label : PyMessage) (path range : String) (inRange : ℚ → Bool)
    (value : PyValue) : Issues :=
  if value.isNone then []
  else rangeIssues label path "a finite number" range inRange value

/-- A whole number from 1 to `most`, when its key is present. -/
def wholeIssues (fields : Fields) (owner key : String) (most : Int) : Issues :=
  let path := "controller.entryMetering." ++ owner ++ "." ++ key
  let label := owner ++ "." ++ key
  match fields.lookup key with
  | none => []
  | some value =>
    match value.number with
    | none =>
      [{ code := "metering.not_a_number"
         message := [.text (label ++ " must be a number; got "), .repr value]
         path := path }]
    | some x =>
      if x.den ≠ 1 then
        [{ code := "metering.out_of_bounds"
           message := [.text (label ++ " must be a whole number; got "), .general x]
           path := path }]
      else if 1 ≤ x.num ∧ x.num ≤ most then []
      else
        [{ code := "metering.out_of_bounds"
           message := [.text (label ++ " ("), .count x.num, .text ") must be in 1..", .count most]
           path := path }]

/-- The `enabled` flag of a section, when its key is present. -/
def enabledIssues (fields : Fields) (owner : String) : Issues := match fields.lookup "enabled" with
  | none => []
  | some (.bool _) => []
  | some _ =>
    [{ code := "metering.unknown_field"
       message := [.text (owner ++ ".enabled must be a boolean")]
       path := "controller.entryMetering." ++ owner ++ ".enabled" }]

/-- An optional section: null is as good as absent. -/
def sectionIssues (cfg : Fields) (key : String) (issues : Fields → Issues) : Issues :=
  match cfg.get key with
  | .none => []
  | .dict fields => issues fields
  | value =>
    [{ code := "metering.unknown_field"
       message := [.text ("entryMetering." ++ key ++ " must be an object, got "), .typeName value]
       path := "controller.entryMetering." ++ key }]

/-- The path of phase `index`. -/
def phasePath (index : Nat) : String := "controller.entryMetering.phases[" ++ toString index ++ "]"

/-- How a message names a field of phase `index`. -/
def phaseField (index : Nat) (field : String) : PyMessage :=
  [.text "phase ", .count index, .text (" " ++ field)]

/-- The entries of phase `index`, from entry `position` on, after `seen`. -/
def entryIssues (present : Option (List Direction))
    (index : Nat) : Nat → List Direction → List PyValue → Issues
  | _, _, [] => []
  | position, seen, entry :: entries =>
    let path := phasePath index ++ ".entries[" ++ toString position ++ "]"
    match entry.asDirection with
    | none =>
      { code := "metering.unknown_entry"
        message := phaseField index "entry " ++ [.repr entry,
          .text " is not a valid compass direction"]
        path := path } ::
        entryIssues present index (position + 1) seen entries
    | some direction =>
      (match present with
        | none => []
        | some arms =>
          if direction ∈ arms then []
          else
            [{ code := "metering.missing_arm"
               message := phaseField index "entry '" ++ [.text direction.value,
                  .text "' is not present at the junction"]
               path := path }]) ++
        (if direction ∈ seen then
          [{ code := "metering.duplicate_in_phase"
             message := [.text "duplicate entry '", .text direction.value,
               .text "' in phase ", .count index]
             path := path }]
        else []) ++
        entryIssues present index (position + 1) (direction :: seen) entries

def entriesIssues (present : Option (List Direction)) (index : Nat) (phase : Fields) : Issues :=
  match (phase.get "entries").asSequence with
  | some (entry :: entries) => entryIssues present index 0 [] (entry :: entries)
  | _ =>
    [{ code := "metering.empty_phase"
       message := phaseField index "must have a non-empty entries list"
       path := phasePath index ++ ".entries" }]

section

variable (index : Nat) (phase : Fields)

def greenIssues : Issues :=
  let path := phasePath index ++ ".green"
  let green := phase.get "green"
  let ranged := rangeIssues (phaseField index "green") path "a finite number"
    "5 < x <= 120 s" (fun x => decide (5 < x ∧ x ≤ 120)) green
  if green.isNone then
    [{ code := "metering.not_a_number"
       message := phaseField index "green is required and must be a number"
       path := path }]
  else match green.number with
    | none => ranged
    | some x =>
      if x ≤ 0 then
        [{ code := "metering.zero_green"
           message := phaseField index "green must be positive; got " ++ [.general x]
           path := path }]
      else ranged

def minGreenIssues : Issues :=
  optionalIssues (phaseField index "minGreen") (phasePath index ++ ".minGreen")
    "5 <= x <= 60 s" (fun x => decide (5 ≤ x ∧ x ≤ 60))
    (phase.getAlias "minGreen" "min_green")

def maxGreenIssues : Issues :=
  optionalIssues (phaseField index "maxGreen") (phasePath index ++ ".maxGreen")
    "10 <= x <= 180 s" (fun x => decide (10 ≤ x ∧ x ≤ 180))
    (phase.getAlias "maxGreen" "max_green")

end

/-- A duration against another; nothing to check where either is missing. -/
def crossIssues (code : String) (index : Nat) (field relation : String) (holds : ℚ → ℚ → Bool)
    (first second : Option ℚ) : Issues :=
  match first, second with
  | some x, some y =>
    if holds x y then []
    else
      [{ code := code
         message := phaseField index field ++ [.text " (", .general x,
           .text (") " ++ relation ++ " ("), .general y, .text ")"]
         path := phasePath index ++ "." ++ field }]
  | _, _ => []

/-- The checks of a phase's greens against each other. -/
def greenOrderIssues (index : Nat) (phase : Fields) : Issues :=
  let green := (phase.get "green").number.filter (0 < ·)
  let minGreen := (phase.getAlias "minGreen" "min_green").number
  let maxGreen := (phase.getAlias "maxGreen" "max_green").number
  crossIssues "metering.min_above_max" index "minGreen"
      "cannot exceed maxGreen" (fun low high => decide (low ≤ high))
      minGreen maxGreen ++
    crossIssues "metering.green_below_min" index "green"
      "cannot be less than minGreen" (fun green low => decide (low ≤ green))
      green minGreen ++
    crossIssues "metering.green_above_max" index "green"
      "cannot exceed maxGreen" (fun green high => decide (green ≤ high))
      green maxGreen

def phaseIssues (present : Option (List Direction)) (index : Nat) : PyValue → Issues
  | .dict phase =>
    unknownFields ["entries", "green", "minGreen", "min_green", "maxGreen",
        "max_green"] [.text "phase ", .count index] (phasePath index) phase ++
      entriesIssues present index phase ++ greenIssues index phase ++
      minGreenIssues index phase ++ maxGreenIssues index phase ++
      greenOrderIssues index phase
  | value =>
    [{ code := "metering.unknown_field"
       message := [.text "phase at index ", .count index,
         .text " must be an object, got ", .typeName value]
       path := phasePath index }]

/-- The issues of every phase, from phase `index` on. -/
def phaseListIssues (present : Option (List Direction)) : Nat → List PyValue → Issues
  | _, [] => []
  | index, phase :: phases =>
    phaseIssues present index phase ++ phaseListIssues present (index + 1) phases

/-- `Direction(str(value).strip().lower())`. A direction's own text is its
qualified member name, which is no direction's. -/
def directionOfText : PyValue → Option Direction
  | .str text => directionNamed text
  | _ => none

/-- The directions of a list of names; nothing when one of them is unknown. -/
def armsOfNames (items : List PyValue) : Option (List Direction) :=
  (items.filter fun item => match item with
    | .str _ => true
    | .direction _ => true
    | _ => false).mapM PyValue.asDirection

section

variable (config : Fields) (arms : Option (List Direction))

/-- The arms a configuration says are present, when it does. -/
def presentArms : Option (List Direction) := match arms with
  | some arms => some arms
  | none =>
    match (config.get "geometry").asDict.bind fun geometry => (geometry.get "arms").asList with
    | some items => armsOfNames items
    | none =>
      match (config.get "roads").asDict.bind fun roads => (roads.get "approaches").asList with
      | none => none
      | some items => some (items.filterMap fun item =>
        item.asDict.bind fun fields => (fields.lookup "direction").bind directionOfText)

section

variable (cfg : Fields)

def phasesIssues : Issues := match cfg.get "phases" with
  | .list (phase :: phases) =>
    (if 4 < phases.length + 1 then
      [{ code := "metering.out_of_bounds"
         message := [.text "entryMetering.phases has ", .count (phases.length + 1 : Nat),
           .text " phases; at most 4 phases are allowed"]
         path := "controller.entryMetering.phases" }]
    else []) ++ phaseListIssues (presentArms config arms) 0 (phase :: phases)
  | _ =>
    [{ code := "metering.no_phases"
       message := [.text "entryMetering.phases must be a non-empty list of phases"]
       path := "controller.entryMetering.phases" }]

def yellowIssues : Issues :=
  optionalIssues [.text "entryMetering.yellow"] "controller.entryMetering.yellow" "2 < x <= 8 s"
    (fun x => decide (2 < x ∧ x ≤ 8)) (cfg.get "yellow")

def allRedIssues : Issues :=
  optionalIssues [.text "entryMetering.allRed"] "controller.entryMetering.allRed" "0 <= x <= 5 s"
    (fun x => decide (0 ≤ x ∧ x ≤ 5)) (cfg.getAlias "allRed" "all_red")

/-- The green of every phase, when all of them are positive numbers. -/
def positiveGreens : Option (List ℚ) :=
  (cfg.get "phases").asList.bind fun phases => phases.mapM fun phase =>
    phase.asDict.bind fun fields => (fields.get "green").number.filter (0 < ·)

def cycleLength (yellow allRed : ℚ) (greens : List ℚ) : ℚ := (greens.map (· + yellow + allRed)).sum

def offsetIssues : Issues :=
  let path := "controller.entryMetering.offset"
  let offset := cfg.get "offset"
  if offset.isNone then []
  else match offset.number with
    | none =>
      [{ code := "metering.not_a_number"
         message := [.text "entryMetering.offset must be a finite number; got ", .repr offset]
         path := path }]
    | some x =>
      if x < 0 then
        [{ code := "metering.out_of_bounds"
           message := [.text "entryMetering.offset (", .general x, .text ") cannot be negative"]
           path := path }]
      else match positiveGreens cfg with
        | none => []
        | some greens =>
          let cycle := cycleLength ((cfg.get "yellow").number.getD 3)
            ((cfg.getAlias "allRed" "all_red").number.getD 2) greens
          if 0 < cycle ∧ cycle ≤ x then
            [{ code := "metering.offset_beyond_cycle"
               message := [.text "entryMetering.offset (", .general x,
                 .text " s) must be less than cycle duration (",
                 .general cycle, .text " s)"]
               path := path }]
          else []

end

section

variable (fields : Fields)

def maxHoldIssues : Issues := match fields.lookup "maxHold" with
  | none => []
  | some value =>
    rangeIssues [.text "spillbackGuard.maxHold"]
      "controller.entryMetering.spillbackGuard.maxHold" "a number" "0..60 s"
      (fun x => decide (0 ≤ x ∧ x ≤ 60)) value

def spillbackGuardIssues : Issues := unknownFields ["enabled", "stoppedThreshold", "maxHold"]
      [.text "spillbackGuard"] "controller.entryMetering.spillbackGuard" fields ++
    enabledIssues fields "spillbackGuard" ++
    wholeIssues fields "spillbackGuard" "stoppedThreshold" 20 ++
    maxHoldIssues fields

def queueCapIssues : Issues := unknownFields ["enabled", "vehicles"] [.text "queueCap"]
      "controller.entryMetering.queueCap" fields ++
    enabledIssues fields "queueCap" ++
    wholeIssues fields "queueCap" "vehicles" 50

end

/-- The issues of an `entryMetering` section. -/
def meteringIssues (cfg : Fields) : Issues :=
  unknownFields ["phases", "yellow", "allRed", "all_red", "offset",
      "spillbackGuard", "queueCap"] [.text "entryMetering"]
      "controller.entryMetering" cfg ++
    phasesIssues config arms cfg ++ yellowIssues cfg ++ allRedIssues cfg ++
    offsetIssues cfg ++ sectionIssues cfg "spillbackGuard" spillbackGuardIssues ++
    sectionIssues cfg "queueCap" queueCapIssues

end

section

variable (config : Fields)

/-- The entry control and the section the validator reads. -/
def resolve : PyValue × PyValue :=
  let ctrl := ((config.get "controller").asDict).getD []
  let control := (ctrl.lookup "entryControl").getD (config.get "entryControl")
  match ctrl.lookup "entryMetering", config.lookup "entryMetering" with
  | some metering, _ => (control, metering)
  | none, some metering => (control, metering)
  | none, none =>
    if (config.lookup "phases").isSome then
      (if control.isNone then .str "metered_entry" else control, .dict config)
    else (control, .none)

/-- The issue of a junction that is no roundabout. -/
def geometryIssues : Issues := match (config.get "geometry").asDict with
  | none => []
  | some geometry =>
    match geometry.get "intersectionType" with
    | .none => []
    | .str "roundabout" => []
    | value =>
      [{ code := "metering.not_roundabout"
         message :=
           [.text "controller.entryControl 'metered_entry' requires geometry.intersectionType 'roundabout', got ",
            .repr value]
         path := "geometry.intersectionType" }]

/-- The issue of adaptive signal control. -/
def signalControlIssues : Issues :=
  let control := match (config.get "controller").asDict with
    | some ctrl => ctrl.get "signalControl"
    | none => config.get "signalControl"
  match control with
  | .str "adaptive" =>
    [{ code := "metering.adaptive_conflict"
       message :=
         [.text "controller.entryControl 'metered_entry' cannot be combined with controller.signalControl 'adaptive'"]
       path := "controller.signalControl" }]
  | _ => []

/-- The issues of the section, whatever kind of value it is. -/
def sectionValueIssues (arms : Option (List Direction)) : PyValue → Issues
  | .none =>
    [{ code := "metering.no_phases"
       message := [.text "entryMetering configuration is required for metered_entry"]
       path := "controller.entryMetering" }]
  | .dict cfg => meteringIssues config arms cfg
  | value =>
    [{ code := "metering.unknown_field"
       message := [.text "entryMetering must be an object, got ", .typeName value]
       path := "controller.entryMetering" }]

end

end MeteringValidator

open MeteringValidator

def validateEntryMetering (config : PyValue)
    (arms : Option (List Direction)) : List MeteringValidationIssue :=
  match config with
  | .dict config =>
    let resolved := resolve config
    let issues := geometryIssues config ++ signalControlIssues config ++
      sectionValueIssues config arms resolved.2
    match resolved.1 with
    | .none => if resolved.2.isNone then [] else issues
    | .str "metered_entry" => issues
    | .str "none" => if resolved.2.isNone then [] else issues
    | control =>
      [{ code := "metering.mode_unknown"
         message :=
           [.text "controller.entryControl must be 'metered_entry' or 'none'; got ", .repr control]
         path := "controller.entryControl" }]
  | value =>
    [{ code := "metering.unknown_field"
       message := [.text "configuration must be a dictionary, got ", .typeName value]
       path := "config" }]

end UrbanFlow
