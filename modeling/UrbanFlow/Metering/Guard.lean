import UrbanFlow.Metering.Gate

/-!
# The signalised roundabout

The spillback guard, the queue cap and the controller that runs them beside the
cursor and the gate. What the ring and the approaches look like to them are two
counts by approach; the inner roundabout's part in a tick is its clock and the
lanes it consults the gate about.
-/

namespace UrbanFlow

open CarrySchedule CyclicOrder MeteringPhaseCursor

/-- What a tick counts on the road, and the entry lanes the inner roundabout
consults the gate about. -/
structure RingObservation where
  stoppedVehicles : Direction → Nat
  standingQueue : Direction → Nat
  consultations : List (Direction × EntryLane) := []

/-- State of a `SpillbackGuard`. -/
structure SpillbackGuard where
  cycleHoldTime : Direction → ℚ := fun _ => 0
  cumulativeHoldTime : Direction → ℚ := fun _ => 0
  holdActivations : Direction → Nat := fun _ => 0
  budgetExhaustions : Direction → Nat := fun _ => 0
  exhaustedThisTick : List Direction := []
  currentlyHeld : List Direction := []
  exhaustedArms : List Direction := []
  lastCycleNumber : Nat := 0

namespace SpillbackGuard

variable {plan : MeteringPlan}

/-- The arm would be green and the ring past it is blocked. -/
def Blocked (cursor : MeteringPhaseCursor plan) (stoppedVehicles : Direction → Nat)
    (arm : Direction) : Prop :=
  getColor arm cursor = .green ∧
    plan.spillbackGuard.stoppedThreshold ≤ stoppedVehicles arm

instance (cursor : MeteringPhaseCursor plan) (stoppedVehicles : Direction → Nat)
    (arm : Direction) : Decidable (Blocked cursor stoppedVehicles arm) :=
  inferInstanceAs (Decidable (_ ∧ _))

/-- What is left of an arm's budget in this cycle. -/
def remainingBudget (plan : MeteringPlan) (arm : Direction) (guard : SpillbackGuard) : ℚ :=
  max 0 (plan.spillbackGuard.maxHold - guard.cycleHoldTime arm)

/-- The arm is held for this tick. -/
def hold (deltaTime remaining : ℚ) (arm : Direction) (guard : SpillbackGuard) : SpillbackGuard :=
  let holdDt := min deltaTime remaining
  { guard with
    cycleHoldTime := Function.update guard.cycleHoldTime arm (guard.cycleHoldTime arm + holdDt)
    cumulativeHoldTime := Function.update guard.cumulativeHoldTime arm
      (guard.cumulativeHoldTime arm + holdDt)
    holdActivations := if arm ∈ guard.currentlyHeld then guard.holdActivations
      else Function.update guard.holdActivations arm (guard.holdActivations arm + 1) }

/-- The arm's budget is used, which is recorded once a cycle. -/
def exhaust (arm : Direction) (guard : SpillbackGuard) : SpillbackGuard :=
  if arm ∈ guard.exhaustedArms then guard
  else
    { guard with
      exhaustedArms := guard.exhaustedArms ++ [arm]
      budgetExhaustions := Function.update guard.budgetExhaustions arm
        (guard.budgetExhaustions arm + 1)
      exhaustedThisTick := guard.exhaustedThisTick ++ [arm] }

section

variable (cursor : MeteringPhaseCursor plan) (deltaTime : ℚ) (stoppedVehicles : Direction → Nat)

/-- One pass of the loop of `update`. -/
def updateArm (loop : SpillbackGuard × List Direction)
    (arm : Direction) : SpillbackGuard × List Direction :=
  if Blocked cursor stoppedVehicles arm then
    let remaining := remainingBudget plan arm loop.1
    if 0 < remaining then (loop.1.hold deltaTime remaining arm, loop.2 ++ [arm])
    else (loop.1.exhaust arm, loop.2)
  else loop

/-- A cycle change gives every arm its budget back. -/
def startCycle (cycleNumber : Nat) (guard : SpillbackGuard) : SpillbackGuard :=
  if cycleNumber ≠ guard.lastCycleNumber then
    { guard with
      lastCycleNumber := cycleNumber
      exhaustedArms := []
      cycleHoldTime := fun _ => 0 }
  else guard

/-- `update`: the guard after it, and the arms held. -/
def update (guard : SpillbackGuard) : SpillbackGuard × List Direction :=
  let cleared := { guard with exhaustedThisTick := [] }
  if plan.spillbackGuard.enabled then
    let (updated, held) := plan.meteredEntries.foldl (updateArm cursor deltaTime stoppedVehicles)
      (cleared.startCycle cursor.cycleNumber, [])
    ({ updated with currentlyHeld := held }, held)
  else ({ cleared with currentlyHeld := [] }, [])

end

end SpillbackGuard

namespace QueueCap

variable {plan : MeteringPlan}

/-- How often the cap was triggered by each arm. -/
abbrev Triggers : Type := Direction → Nat

/-- The metered arms by value. -/
def sortedEntries (plan : MeteringPlan) : List Direction :=
  [Direction.east, .north, .south, .west].filter (· ∈ plan.meteredEntries)

/-- The loop of `check_and_trigger`. -/
def checkArms (standingQueue : Direction → Nat) (cursor : MeteringPhaseCursor plan)
    (triggers : Triggers) :
    List Direction → Option Direction × MeteringPhaseCursor plan × Triggers
  | [] => (none, cursor, triggers)
  | arm :: arms =>
    if getColor arm cursor = .red ∧
        plan.queueCap.vehicles ≤ standingQueue arm then
      let (success, ended) := endGreenEarly cursor
      if success then (some arm, ended, Function.update triggers arm (triggers arm + 1))
      else checkArms standingQueue ended triggers arms
    else checkArms standingQueue cursor triggers arms

/-- `check_and_trigger`: the arm that triggered, the cursor after it, and the
counters. -/
def checkAndTrigger (standingQueue : Direction → Nat) (cursor : MeteringPhaseCursor plan)
    (triggers : Triggers) : Option Direction × MeteringPhaseCursor plan × Triggers :=
  if plan.queueCap.enabled then if (currentPhase cursor).color ≠ .green then
      (none, cursor, triggers)
    else match currentSpec cursor with
      | none => (none, cursor, triggers)
      | some spec =>
        if cursor.timeInCurrentState < spec.minGreen - 1 / 1000000 then (none, cursor, triggers)
        else checkArms standingQueue cursor triggers (sortedEntries plan)
  else (none, cursor, triggers)

end QueueCap

/-- State of a `SignalisedRoundaboutController`; `time` is the inner
roundabout's `time_in_current_state`. -/
structure SignalisedRoundabout (plan : MeteringPlan) where
  cursor : MeteringPhaseCursor plan
  gate : MeteredEntryGate := {}
  spillbackGuard : SpillbackGuard := {}
  triggers : QueueCap.Triggers := fun _ => 0
  time : ℚ := 0

namespace SignalisedRoundabout

variable {plan : MeteringPlan}

def reset (plan : MeteringPlan) : SignalisedRoundabout plan where
  cursor := MeteringPhaseCursor.reset plan

/-- The inner roundabout's consultations. -/
def consult (cursor : MeteringPhaseCursor plan) (now : ℚ) (gate : MeteredEntryGate) :
    List (Direction × EntryLane) → MeteredEntryGate
  | [] => gate
  | (approach, lane) :: consultations =>
    consult cursor now (gate.allows cursor approach lane now).2 consultations

/-- `update`, once the cursor has been advanced. -/
def updateAdvanced (deltaTime : ℚ) (observed : RingObservation)
    (advanced : MeteringPhaseCursor plan)
    (controller : SignalisedRoundabout plan) : SignalisedRoundabout plan :=
  let now := controller.time + deltaTime
  let (qcArm, cursor, triggers) :=
    QueueCap.checkAndTrigger observed.standingQueue advanced controller.triggers
  let capped := match qcArm with
    | some arm => controller.gate.recordQueueCapEvent arm now
    | none => controller.gate
  let (spillbackGuard, heldArms) :=
    controller.spillbackGuard.update cursor deltaTime observed.stoppedVehicles
  let recorded := spillbackGuard.exhaustedThisTick.foldl
    (fun gate arm => gate.recordSpillbackExhaustedEvent arm now)
    (capped.setSpillbackHolds heldArms)
  { cursor, spillbackGuard, triggers
    gate := consult cursor now (recorded.update cursor now) observed.consultations
    time := now }

def update (deltaTime : ℚ) (controller : SignalisedRoundabout plan) (observed : RingObservation) :
    Except PyMessage (SignalisedRoundabout plan) := do
  let advanced ← advance deltaTime controller.cursor
  .ok (controller.updateAdvanced deltaTime observed advanced)

def signalsState (controller : SignalisedRoundabout plan) (approach : Direction) : Color :=
  if approach ∈ controller.gate.spillbackHolds then .red
  else getColor approach controller.cursor

end SignalisedRoundabout
end UrbanFlow
