import UrbanFlow.Scenario.LiveComparison

/-!
# The two engines of the live comparison

`signal_and_roundabout_configs` derives the configurations of a signal and of a
roundabout from one live configuration. A configuration is JSON, so the copies
that the code makes of it through JSON are the configuration itself.
-/

namespace UrbanFlow.DualOrchestrator

open Scenario Scenario

/-- The keys that say the control section is one of a signal. -/
def timingKeys : List String := ["straightRightDuration", "greenDuration", "greenTime"]

/-- What meters the entries of a roundabout. -/
def entryKeys : List String := ["entryControl", "entryMetering"]

def firstGiven (sections : List Fields) (key : String) : Option PyValue :=
  sections.findSome? fun fields =>
    let value := fields.get key
    if value.isNone then none else some value

variable (parseFloat : String → Option PyValue)

/-- `float(value)`. -/
def toFloat (value : PyValue) : Except PyMessage PyValue := match value with
  | .int number => .ok (.float number)
  | .bool flag => .ok (.float (if flag then 1 else 0))
  | .float _ | .nan | .infinity _ => .ok value
  | .str text =>
    match parseFloat text with
    | some number => .ok number
    | none => .error [.text "could not convert string to float: ", .repr value]
  | _ => .error [.text "float() argument must be a string or a real number, not ", .repr value]

def ringValue (sections : List Fields) (key : String) (default : ℚ) : Except PyMessage PyValue :=
  match firstGiven sections key with
  | some value => toFloat parseFloat value
  | none => .ok (.float default)

/-- The signal's control section. Without a timing value it is the paired plan,
with the way the signal times its greens kept. -/
def signalController (control : Fields) : Fields :=
  if ∃ key ∈ timingKeys, (control.lookup key).isSome then control
  else Fields.update [("phaseSequence", .list (defaultPhaseSequence.map .str))]
      (signalSwitch.filterMap fun key => (control.lookup key).map fun value => (key, value))

/-- The ring's control section from its values: `circulatingLanes` is a reserved
key without an effect, left out where the geometry has the ring lane count. -/
def ringSection (geometry : Fields) (innerRadius outerRadius criticalGap followUpTime entrySpeed
      circulatingSpeed entryControl entryMetering : Option PyValue) : Fields :=
  optional "innerRadius" innerRadius ++ optional "outerRadius" outerRadius ++
    optional "circulatingLanes"
      (if (geometry.get "circulatingLanes").isNone then some (.int 1) else none) ++
    optional "criticalGap" criticalGap ++
    optional "followUpTime" followUpTime ++
    optional "entrySpeed" entrySpeed ++
    optional "circulatingSpeed" circulatingSpeed ++
    optional "entryControl" entryControl ++
    optional "entryMetering" entryMetering

/-- The control section of the roundabout. -/
def roundaboutController (geometry ring source : Fields) : Except PyMessage Fields := do
  let sections := [ring, source]
  let innerRadius ← ringValue parseFloat sections "innerRadius" 10
  let outerRadius ← ringValue parseFloat sections "outerRadius" 20
  let criticalGap ← toFloat parseFloat ((ring.lookup "criticalGap").getD (.float 4))
  let followUpTime ← toFloat parseFloat ((ring.lookup "followUpTime").getD (.float (5 / 2)))
  let entrySpeed ← ringValue parseFloat sections "entrySpeed" 5
  let circulatingSpeed ← ringValue parseFloat sections "circulatingSpeed" 8
  pure (ringSection geometry innerRadius outerRadius criticalGap followUpTime
    entrySpeed circulatingSpeed (firstGiven sections "entryControl")
    (firstGiven sections "entryMetering"))

/-- A section read with a default that an absent section has. -/
def sectionOrEmpty (config : Fields) (key : String) : Except PyMessage Fields :=
  if (config.lookup key).isNone then .ok [] else objectAt config key

def engineConfig (config geometry control : Fields) (intersectionType : String) : Fields :=
  (config.set "geometry" (.dict (geometry.set "intersectionType" (.str intersectionType)))).set
    "controller" (.dict control)

/-- `signal_and_roundabout_configs`. The schema allows nothing but an object for
the sections that are read here. -/
def signalAndRoundaboutConfigs (config : Fields) : Except PyMessage (Fields × Fields) := do
  let geometry ← sectionOrEmpty config "geometry"
  let control ← sectionOrEmpty config "controller"
  let ring ← if (config.lookup "roundaboutController").isSome then
      objectAt config "roundaboutController"
    else pure control
  let ringControl ← roundaboutController parseFloat geometry ring control
  pure (engineConfig config geometry (signalController control) "fixed_time_signal",
      engineConfig config geometry ringControl "roundabout")

/-- The settings that every ring has. -/
def settingKeys : List String :=
  ["innerRadius", "outerRadius", "criticalGap", "followUpTime", "entrySpeed", "circulatingSpeed"]

attribute [local simp] settingKeys

section

variable (config geometry control : Fields) (intersectionType : String)

theorem dictAt_controller_engineConfig :
    (engineConfig config geometry control intersectionType).dictAt "controller" = some control := by
  simp [engineConfig, Fields.dictAt]

theorem dictAt_geometry_engineConfig :
    (engineConfig config geometry control intersectionType).dictAt "geometry" =
        some (geometry.set "intersectionType" (.str intersectionType)) := by
  simp [engineConfig, Fields.dictAt, Fields.lookup_set]

theorem lookup_engineConfig {key : String} (notGeometry : key ≠ "geometry")
    (notControl : key ≠ "controller") :
    (engineConfig config geometry control intersectionType).lookup key = config.lookup key := by
  simp [engineConfig, Fields.lookup_set, notGeometry, notControl]

end

theorem sectionOrEmpty_of_dictAt {config fields : Fields} {key : String}
    (found : config.dictAt key = some fields) : sectionOrEmpty config key = .ok fields := by
  have present := Fields.dictAt_eq_some.mp found
  simp [sectionOrEmpty, present, objectAt, found]

theorem signalAndRoundaboutConfigs_eq {config geometry control ring ringControl : Fields}
    (hasGeometry : config.dictAt "geometry" = some geometry)
    (hasControl : config.dictAt "controller" = some control)
    (hasRing : config.dictAt "roundaboutController" = some ring)
    (isRing : roundaboutController parseFloat geometry ring control = .ok ringControl) :
    signalAndRoundaboutConfigs parseFloat config = .ok
        (engineConfig config geometry (signalController control) "fixed_time_signal",
          engineConfig config geometry ringControl "roundabout") := by
  have present := Fields.dictAt_eq_some.mp hasRing
  simp [signalAndRoundaboutConfigs, sectionOrEmpty_of_dictAt hasGeometry, sectionOrEmpty_of_dictAt hasControl, present, objectAt_of_dictAt hasRing, isRing, bind, Except.bind, pure, Except.pure]

theorem number_float (value : ℚ) : (PyValue.float value).number = some value := rfl

variable {parseFloat} in
theorem toFloat_of_number {value : PyValue} {number : ℚ} (isNumber : value.number = some number) :
    toFloat parseFloat value = .ok (.float number) := by
  cases value with
  | int held =>
    obtain rfl : (held : ℚ) = number := by simpa [PyValue.number] using isNumber
    rfl
  | float held =>
    obtain rfl : held = number := by simpa [PyValue.number] using isNumber
    rfl
  | _ => simp [PyValue.number] at isNumber

theorem firstGiven_cons_of_number {fields : Fields} (others : List Fields) {key : String}
    {value : PyValue} {number : ℚ} (found : fields.lookup key = some value)
    (isNumber : value.number = some number) : firstGiven (fields :: others) key = some value := by
  have notNone : value.isNone = false := by
    cases value <;> simp [PyValue.number, PyValue.isNone] at isNumber ⊢
  simp [firstGiven, Fields.get, found, notNone]

theorem roundaboutController_ok (geometry : Fields) {ring : Fields} (source : Fields)
    (settings : ∀ key ∈ settingKeys, ∃ value number,
      ring.lookup key = some value ∧ value.number = some number) :
    ∃ control, roundaboutController parseFloat geometry ring source = .ok control ∧
        (∀ key ∈ settingKeys, (control.get key).number = (ring.get key).number) ∧
        ∀ key ∈ entryKeys, control.get key = (firstGiven [ring, source] key).getD .none := by
  have isValue : ∀ key ∈ settingKeys, ∃ number, (ring.get key).number = some number ∧
        (∀ default, ringValue parseFloat [ring, source] key default = .ok (.float number)) ∧
        ∀ default, toFloat parseFloat ((ring.lookup key).getD default) = .ok (.float number) := by
    intro key isKey
    obtain ⟨value, number, found, isNumber⟩ := settings key isKey
    refine ⟨number, by simpa [Fields.get, found] using isNumber, ?_, ?_⟩
    · intro default
      simp [ringValue, firstGiven_cons_of_number [source] found isNumber,
        toFloat_of_number isNumber]
    · intro default
      simp [found, toFloat_of_number isNumber]
  obtain ⟨inner, innerNumber, isInner, _⟩ := isValue "innerRadius" (by simp)
  obtain ⟨outer, outerNumber, isOuter, _⟩ := isValue "outerRadius" (by simp)
  obtain ⟨gap, gapNumber, _, isGap⟩ := isValue "criticalGap" (by simp)
  obtain ⟨followUp, followUpNumber, _, isFollowUp⟩ := isValue "followUpTime" (by simp)
  obtain ⟨entry, entryNumber, isEntry, _⟩ := isValue "entrySpeed" (by simp)
  obtain ⟨circulating, circulatingNumber, isCirculating, _⟩ := isValue "circulatingSpeed" (by simp)
  refine ⟨ringSection geometry (some (.float inner)) (some (.float outer))
    (some (.float gap)) (some (.float followUp)) (some (.float entry))
    (some (.float circulating)) (firstGiven [ring, source] "entryControl")
    (firstGiven [ring, source] "entryMetering"), ?_, ?settings, ?entries⟩
  · unfold roundaboutController
    simp only [isInner, isOuter, isGap, isFollowUp, isEntry, isCirculating, bind, Except.bind]
    rfl
  case settings =>
    simp only [Fields.get] at innerNumber outerNumber gapNumber followUpNumber
    simp only [Fields.get] at entryNumber circulatingNumber
    simp [Fields.get, ringSection, List.lookup_append, lookup_optional, number_float, innerNumber, outerNumber, gapNumber, followUpNumber, entryNumber, circulatingNumber]
  case entries => simp [entryKeys, Fields.get, ringSection, List.lookup_append, lookup_optional]

end UrbanFlow.DualOrchestrator
