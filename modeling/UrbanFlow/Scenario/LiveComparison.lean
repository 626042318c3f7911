import UrbanFlow.Scenario.Compiled

/-!
# The configuration of the live comparison

`compile_live_comparison`: one configuration that carries the signal's own
control section, the ring's design under `roundaboutController` and the ring
lane count in the geometry.
-/

namespace UrbanFlow.Scenario

open Fields

/-- A section that is read or written as an object. -/
def objectAt (config : Fields) (key : String) : Except PyMessage Fields :=
  match config.dictAt key with
  | some fields => .ok fields
  | none => .error [.text ("'" ++ key ++ "' is not an object")]

theorem objectAt_of_dictAt {config fields : Fields} {key : String}
    (found : config.dictAt key = some fields) : objectAt config key = .ok fields := by
  simp [objectAt, found]

/-- The switch between the signal controls, which is only valid on a signal. -/
def signalSwitch : List String := ["signalControl", "adaptive"]

namespace ScenarioDocument

variable (fingerprint : ScenarioDocument → String)

/-- The geometry of the live configuration. -/
def liveGeometry (geometry ringGeometry : Fields) (intersectionType : String) : Fields :=
  let geometry := match ringGeometry.lookup "circulatingLanes" with
    | some lanes => geometry.set "circulatingLanes" lanes
    | none => geometry
  geometry.set "intersectionType" (.str intersectionType)

/-- The control of a single roundabout view: the ring's settings, beside the
timing of the signal. -/
def roundaboutView (signal ring : Fields) : Fields :=
  Fields.update (signal.filter fun item => item.1 ∉ signalSwitch) ring

def liveControl (config ring : Fields) (intersectionType : String) : Except PyMessage Fields :=
  if intersectionType = "roundabout" then do
    let signal ← objectAt config "controller"
    pure (config.set "controller" (.dict (roundaboutView signal ring)))
  else pure config

/-- The live configuration, its sections written. -/
def liveConfig (config ring geometry scenario : Fields) (signalStrategy : String) : Fields :=
  ((config.set "roundaboutController" (.dict ring)).set "geometry"
      (.dict geometry)).set "scenario" (.dict (scenario.set "strategy"
    (.str (signalStrategy ++ "+roundabout"))))

def compileLiveComparison (document : ScenarioDocument)
    (signalStrategy intersectionType : String) : Except PyMessage Fields :=
  if signalStrategy ∉ ["fixed_time", "adaptive"] then
    .error [.text "signal_strategy must be 'fixed_time' or 'adaptive'"]
  else do
    let config ← document.compileScenario fingerprint signalStrategy
    let rb ← document.compileScenario fingerprint "roundabout"
    let ring ← objectAt rb "controller"
    let ringGeometry ← objectAt rb "geometry"
    let geometry ← objectAt config "geometry"
    let scenario ← objectAt config "scenario"
    let config ← liveControl config ring intersectionType
    pure (liveConfig config ring (liveGeometry geometry ringGeometry intersectionType) scenario
      signalStrategy)

/-- What the live configuration holds, from the two configurations it is made
of. -/
structure LiveParts (signalConfig signal geometry ring ringGeometry : Fields)
    (intersectionType : String) (live : Fields) : Prop where
  ringControl : live.dictAt "roundaboutController" = some ring
  geometry : live.dictAt "geometry" = some (liveGeometry geometry ringGeometry intersectionType)
  control : live.dictAt "controller" =
    some (if intersectionType = "roundabout" then roundaboutView signal ring else signal)
  others : ∀ key, key ∉ ["roundaboutController", "geometry", "controller", "scenario"] →
      live.lookup key = signalConfig.lookup key

theorem liveControl_eq {config signal : Fields} (ring : Fields) (intersectionType : String)
    (hasSignal : config.dictAt "controller" = some signal) :
    ∃ controlled, liveControl config ring intersectionType = .ok controlled ∧
        controlled.dictAt "controller" = some (if intersectionType = "roundabout" then
            roundaboutView signal ring else signal) ∧
        ∀ key ≠ "controller", controlled.lookup key = config.lookup key := by
  unfold liveControl
  split
  · refine ⟨_, by rw [objectAt_of_dictAt hasSignal]; rfl, ?_, ?_⟩
    · exact dictAt_set_self _ _ _
    · intro key different
      exact lookup_set_of_ne _ different _
  · exact ⟨config, rfl, hasSignal, fun _ _ => rfl⟩

theorem compileLiveComparison_parts {document : ScenarioDocument} {signalStrategy : String}
    (intersectionType : String) {signalConfig ringConfig : Fields}
    (isSignal : signalStrategy ∈ ["fixed_time", "adaptive"])
    (signalCompiled : document.compileScenario fingerprint signalStrategy = .ok signalConfig)
    (ringCompiled : document.compileScenario fingerprint "roundabout" = .ok ringConfig)
    {signal geometry ring ringGeometry scenario : Fields}
    (hasSignal : signalConfig.dictAt "controller" = some signal)
    (hasGeometry : signalConfig.dictAt "geometry" = some geometry)
    (hasScenario : signalConfig.dictAt "scenario" = some scenario)
    (hasRing : ringConfig.dictAt "controller" = some ring)
    (hasRingGeometry : ringConfig.dictAt "geometry" = some ringGeometry) :
    ∃ live, document.compileLiveComparison fingerprint signalStrategy intersectionType = .ok live ∧
        LiveParts signalConfig signal geometry ring ringGeometry intersectionType live := by
  obtain ⟨controlled, isControlled, control, others⟩ :=
    liveControl_eq ring intersectionType hasSignal
  refine ⟨liveConfig controlled ring (liveGeometry geometry ringGeometry intersectionType) scenario
    signalStrategy, ?_, ?ringControl, ?geometry, ?control, ?others⟩
  · unfold compileLiveComparison
    rw [if_neg (not_not_intro isSignal), signalCompiled, ringCompiled]
    simp only [bind, Except.bind, objectAt_of_dictAt hasRing,
      objectAt_of_dictAt hasRingGeometry, objectAt_of_dictAt hasGeometry,
      objectAt_of_dictAt hasScenario, isControlled]
    rfl
  case ringControl =>
    rw [liveConfig, dictAt_set_of_ne _ (by decide), dictAt_set_of_ne _ (by decide),
      dictAt_set_self]
  case geometry => rw [liveConfig, dictAt_set_of_ne _ (by decide), dictAt_set_self]
  case control =>
    rw [liveConfig, dictAt_set_of_ne _ (by decide), dictAt_set_of_ne _ (by decide),
      dictAt_set_of_ne _ (by decide), control]
  case others =>
    intro key isOther
    simp only [List.mem_cons, List.not_mem_nil, or_false, not_or] at isOther
    obtain ⟨notRing, notGeometry, notControl, notScenario⟩ := isOther
    rw [liveConfig, lookup_set_of_ne _ notScenario,
      lookup_set_of_ne _ notGeometry, lookup_set_of_ne _ notRing,
      others key notControl]

end ScenarioDocument
end UrbanFlow.Scenario
