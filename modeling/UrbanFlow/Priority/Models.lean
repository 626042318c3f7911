import UrbanFlow.Core.Enums
import UrbanFlow.Core.Text

/-!
# Inputs of the priority package

The pre-emption and transit-priority configurations with their bounds, and what
the controller reads of a vehicle on each tick.
-/

namespace UrbanFlow

/-- The message of a `ValueError`. -/
abbrev Message : Type := List (MessagePart String)

section

variable (value : ℚ) (name : String) (low high : ℚ)

/-- `_within`. The model's numbers are finite, so only the bounds remain. -/
def within : Except Message Unit := if low ≤ value ∧ value ≤ high then .ok ()
  else .error [.str name, .text " must be between ", .general low, .text " and ", .general high]

theorem within_ok_iff : within value name low high = .ok () ↔ low ≤ value ∧ value ≤ high := by
  unfold within
  split
  · next holds => simp [holds]
  · next fails => simp [fails]

end

section

variable (holds : Bool) (message : Message)

/-- `if not holds: raise ValueError(message)`. -/
def require : Except Message Unit := if holds then .ok () else .error message

theorem require_ok_iff : require holds message = .ok () ↔ holds = true := by
  cases holds <;> simp [require]

end

/-- A sequence of checks passes when each of them does. -/
theorem check_bind_ok_iff (first : Except Message Unit) (rest : Unit → Except Message Unit) :
    (first >>= rest) = .ok () ↔ first = .ok () ∧ rest () = .ok () := by
  cases first with
  | error message | ok value => simp [bind, Except.bind]

/-- Signal pre-emption. -/
structure PreemptionConfig where
  enabled : Bool := true
  detectionDistanceM : Option ℚ := some 150
  detectionTimeS : Option ℚ := some 12
  /-- A green is never cut shorter than this. -/
  minGreenS : ℚ := 7
  /-- The pre-empted green is released after this long at the latest. -/
  maxHoldS : ℚ := 45
  /-- After the plan is restored, no new pre-emption starts for this long. -/
  minRecoveryS : ℚ := 10

def PreemptionConfig.validate (config : PreemptionConfig) : Except Message Unit := do
  require (config.detectionDistanceM.isSome || config.detectionTimeS.isSome)
    [.text "give a detection distance, a detection time, or both"]
  config.detectionDistanceM.forM fun distance => within distance "detection distance" 20 1000
  config.detectionTimeS.forM fun time => within time "detection time" 1 60
  within config.minGreenS "minimum green" 1 30
  within config.maxHoldS "maximum hold" 5 120
  require (config.minGreenS ≤ config.maxHoldS)
    [.text "maximum hold must be at least the minimum green"]
  within config.minRecoveryS "minimum recovery" 0 120

/-- Conditional transit signal priority. -/
structure TransitPriorityConfig where
  enabled : Bool := true
  detectionDistanceM : ℚ := 120
  latenessThresholdS : ℚ := 15
  schedulePaddingS : ℚ := 10
  maxExtensionS : ℚ := 10
  maxEarlyGreenS : ℚ := 10
  minGreenS : ℚ := 7
  minSpacingS : ℚ := 30
  conditional : Bool := true

def TransitPriorityConfig.validate (config : TransitPriorityConfig) : Except Message Unit := do
  within config.detectionDistanceM "detection distance" 20 400
  within config.latenessThresholdS "lateness threshold" 0 300
  within config.schedulePaddingS "schedule padding" 0 300
  within config.maxExtensionS "maximum extension" 0 20
  within config.maxEarlyGreenS "maximum early green" 0 20
  within config.minGreenS "minimum green" 1 30
  within config.minSpacingS "minimum spacing" 0 300

theorem PreemptionConfig.validate_bounds {config : PreemptionConfig}
    (valid : config.validate = .ok ()) : 1 ≤ config.minGreenS ∧ config.minGreenS ≤ config.maxHoldS ∧
      5 ≤ config.maxHoldS ∧ 0 ≤ config.minRecoveryS := by
  simp only [validate, check_bind_ok_iff, within_ok_iff, require_ok_iff, decide_eq_true_eq] at valid
  obtain ⟨_, _, _, minGreen, maxHold, ordered, recovery⟩ := valid
  exact ⟨minGreen.1, ordered, maxHold.1, recovery.1⟩

/-- The lane a vehicle is on. -/
structure LaneView where
  laneId : String
  length : ℚ

/-- `LANE_PREFIX`: how the ids of an approach's incoming lanes begin. -/
def lanePrefix : Direction → String
  | .north => "n_in_"
  | .south => "s_in_"
  | .east => "e_in_"
  | .west => "w_in_"

/-- An emergency vehicle as observed on one tick. -/
structure EmergencyView where
  vehicleId : String
  approach : Direction
  turn : TurnIntent
  state : VehicleState
  lane : Option LaneView
  position : ℚ
  speed : ℚ

/-- Where a bus stands with its stop. -/
inductive DwellState
  | approach
  | dwelling
  | done
  deriving DecidableEq, Repr

/-- A scheduled bus as observed on one tick. -/
structure TransitView where
  vehicleId : String
  approach : Direction
  turn : TurnIntent
  state : VehicleState
  lane : Option LaneView
  position : ℚ
  speed : ℚ
  desiredSpeed : ℚ
  dwellState : DwellState
  dwellS : ℚ
  dwellStarted : ℚ
  plannedArrival : ℚ

/-- Whether a lane is an incoming lane of the approach. -/
def LaneView.isOn (lane : LaneView) (approach : Direction) : Bool :=
  (lanePrefix approach).toList.isPrefixOf lane.laneId.toList

end UrbanFlow
