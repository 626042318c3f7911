import UrbanFlow.Networks.Graph

/-!
# Disruption scenarios

Incidents on links, weather windows and demand surges, each in a window of simulation
seconds. A window counts from its start to its end, both less a tolerance. Weather
scales the speed, the saturation flow and the headway, linearly in its severity;
windows that overlap multiply, and every factor is clamped.
-/

namespace UrbanFlow.Incidents

/-- `kind` of a weather window. -/
inductive WeatherKind
  | rain
  | fog
  | snow
  | ice
  deriving DecidableEq, Repr

def minSpeedFactor : ℚ := 3 / 10

def minSaturationFactor : ℚ := 3 / 10

def maxHeadwayFactor : ℚ := 5 / 2

def minDischarge : ℚ := 15 / 100

structure WeatherFactors where
  speed : ℚ := 1
  saturation : ℚ := 1
  headway : ℚ := 1
  deriving DecidableEq, Repr

def WeatherFactors.discharge (factors : WeatherFactors) : ℚ :=
  max minDischarge (factors.saturation / factors.headway)

/-- `_AT_FULL_SEVERITY`: speed, saturation and headway. -/
def atFullSeverity : WeatherKind → WeatherFactors
  | .rain => ⟨88 / 100, 90 / 100, 115 / 100⟩
  | .fog => ⟨85 / 100, 92 / 100, 125 / 100⟩
  | .snow => ⟨72 / 100, 80 / 100, 135 / 100⟩
  | .ice => ⟨55 / 100, 70 / 100, 170 / 100⟩

def clamp (x lo hi : ℚ) : ℚ := max lo (min hi x)

/-- Factors within the bounds. -/
def WeatherFactors.clamped (factors : WeatherFactors) : WeatherFactors where
  speed := clamp factors.speed minSpeedFactor 1
  saturation := clamp factors.saturation minSaturationFactor 1
  headway := clamp factors.headway 1 maxHeadwayFactor

def weatherFactors (kind : WeatherKind) (severity : ℚ) : WeatherFactors :=
  let s := clamp severity 0 1
  let full := atFullSeverity kind
  WeatherFactors.clamped
    { speed := 1 + (full.speed - 1) * s
      saturation := 1 + (full.saturation - 1) * s
      headway := 1 + (full.headway - 1) * s }

/-- Two weathers at once. -/
def WeatherFactors.times (first second : WeatherFactors) : WeatherFactors where
  speed := first.speed * second.speed
  saturation := first.saturation * second.saturation
  headway := first.headway * second.headway

def combine (factors : List WeatherFactors) : WeatherFactors :=
  (factors.foldl WeatherFactors.times {}).clamped

open Networks

def maxEvents : Nat := 20

def eps : ℚ := 1 / 10 ^ 9

/-- `start` and `duration`, with what their fields require. -/
structure Window where
  start : ℚ
  duration : ℚ
  start_nonneg : 0 ≤ start
  start_le : start ≤ 86400
  duration_pos : 0 < duration
  duration_le : duration ≤ 86400

/-- `end`. -/
def Window.finish (window : Window) : ℚ := window.start + window.duration

def Window.active (t : ℚ) (window : Window) : Bool :=
  decide (window.start - eps ≤ t ∧ t < window.start + window.duration - eps)

/-- `type` of an incident. -/
inductive IncidentType
  | crash
  | blocked_lane
  | closure
  deriving DecidableEq, Repr

/-- `policy` of a closure. -/
inductive ClosurePolicy
  | drain
  | hold
  deriving DecidableEq, Repr

structure Incident extends Window where
  type : IncidentType
  links : List String
  lanesBlocked : Nat := 1
  speedFactor : Option ℚ := none
  policy : ClosurePolicy := .drain
  links_ne_nil : links ≠ []
  links_le : links.length ≤ maxEvents
  lanesBlocked_pos : 1 ≤ lanesBlocked
  lanesBlocked_le : lanesBlocked ≤ 8
  speedFactor_mem : ∀ factor ∈ speedFactor, 0 < factor ∧ factor ≤ 1

theorem tenSeconds_pos : (0 : ℚ) < 10 := by norm_num

theorem tenSeconds_le : (10 : ℚ) ≤ 86400 := by norm_num

theorem oneSecond_le : (1 : ℚ) ≤ 86400 := by norm_num

theorem oneBlocked_le : 1 ≤ 8 := by decide

theorem noSpeedFactor_mem : ∀ factor ∈ (none : Option ℚ), 0 < factor ∧ factor ≤ 1 :=
  fun _ absent => absurd absent (Option.not_mem_none _)

def defaultSpeedFactor : IncidentType → ℚ
  | .crash => 6 / 10
  | .blocked_lane => 1
  | .closure => 1

/-- `speed_factor`. -/
def Incident.speed_factor (incident : Incident) : ℚ :=
  incident.speedFactor.getD (defaultSpeedFactor incident.type)

structure WeatherWindow extends Window where
  kind : WeatherKind
  severity : ℚ := 1
  severity_nonneg : 0 ≤ severity
  severity_le : severity ≤ 1

structure Surge extends Window where
  origin : Option String := none
  destination : Option String := none
  multiplier : ℚ
  multiplier_nonneg : 0 ≤ multiplier
  multiplier_le : multiplier ≤ 10

/-- `matches`. -/
def Surge.matches_ (surge : Surge) (flow : Flow) : Bool :=
  decide ((surge.origin = none ∨ surge.origin = some flow.origin) ∧
    (surge.destination = none ∨ surge.destination = some flow.destination))

structure Scenario where
  incidents : List Incident := []
  weather : List WeatherWindow := []
  surges : List Surge := []
  reroute : Bool := true
  incidents_le : incidents.length ≤ maxEvents
  weather_le : weather.length ≤ maxEvents
  surges_le : surges.length ≤ maxEvents

def Scenario.windows (scenario : Scenario) : List Window :=
  scenario.incidents.map Incident.toWindow ++ scenario.weather.map WeatherWindow.toWindow ++
    scenario.surges.map Surge.toWindow

/-- `_boundaries`: the start of the run, and where windows start and end within it. -/
def boundaries (scenario : Scenario) (duration : ℚ) : List ℚ :=
  (0 :: (scenario.windows.flatMap fun window => [window.start, window.finish]).filter
    fun x => decide (0 < x ∧ x < duration)).dedup.insertionSort (· ≤ ·)

/-- Between two times with no start or end, a window stays as it is. -/
theorem Window.active_congr {window : Window} {earlier later : ℚ} (ordered : earlier ≤ later)
    (noStart : ¬ (earlier + eps < window.start ∧ window.start ≤ later + eps))
    (noFinish : ¬ (earlier + eps < window.finish ∧ window.finish ≤ later + eps)) :
    window.active earlier = window.active later := by
  simp only [Window.finish] at noFinish
  simp only [Window.active]
  congr 1
  apply propext
  constructor
  · rintro ⟨started, running⟩
    refine ⟨by linarith, ?_⟩
    by_contra ended
    exact noFinish ⟨by linarith, by linarith⟩
  · rintro ⟨_, _⟩
    refine ⟨?_, by linarith⟩
    by_contra notStarted
    exact noStart ⟨by linarith, by linarith⟩

theorem mem_boundaries {scenario : Scenario} {duration x : ℚ} :
    x ∈ boundaries scenario duration ↔ x = 0 ∨ ∃ window ∈ scenario.windows,
        (x = window.start ∨ x = window.finish) ∧ 0 < x ∧ x < duration := by
  simp only [boundaries, List.mem_insertionSort, List.mem_dedup, List.mem_cons,
    List.mem_filter, List.mem_flatMap, List.not_mem_nil, or_false, decide_eq_true_eq]
  constructor
  · rintro (isZero | ⟨⟨window, isWindow, isEnd⟩, inside⟩)
    · exact Or.inl isZero
    · exact Or.inr ⟨window, isWindow, isEnd, inside⟩
  · rintro (isZero | ⟨window, isWindow, isEnd, inside⟩)
    · exact Or.inl isZero
    · exact Or.inr ⟨⟨window, isWindow, isEnd⟩, inside⟩

end UrbanFlow.Incidents
