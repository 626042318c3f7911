import UrbanFlow.Library.Machine
import UrbanFlow.Metering.Cursor

/-!
# The metered entry gate

The gate answers whether the head of an entry lane may proceed. On yellow a
vehicle that can no longer stop is latched and may proceed from then on. The
latch is kept by vehicle: the lane it was set on only decides when it is
dropped.
-/

namespace UrbanFlow

open CarrySchedule CyclicOrder

/-- What the gate reads of a vehicle. -/
structure EntryVehicle where
  vehicleId : String
  position : ℚ
  speed : ℚ
  comfortDeceleration : ℚ := 3
  length : ℚ
  deriving DecidableEq

structure EntryLane where
  laneId : String
  length : ℚ
  vehicles : List EntryVehicle
  deriving DecidableEq

/-- What `commits_through_yellow` reads of a virtual obstacle. -/
structure VirtualObstacle where
  position : ℚ
  isYellow : Bool := false

def commitsThroughYellow (vehicle : EntryVehicle) (obstacle : VirtualObstacle) : Bool :=
  if obstacle.isYellow then
    let stoppingDist := vehicle.speed ^ 2 / (2 * max vehicle.comfortDeceleration 1)
    let distToLine := max 0 (obstacle.position - vehicle.position)
    decide (distToLine ≤ stoppingDist + vehicle.length)
  else false

namespace EntryLane

/-- The vehicle farthest on; the first of them at equal positions. -/
def head (lane : EntryLane) : Option EntryVehicle := lane.vehicles.foldl (fun best vehicle =>
      match best with
      | none => some vehicle
      | some other => if other.position < vehicle.position then some vehicle else best)
    none

def Holds (lane : EntryLane) (vehicleId : String) : Prop :=
  vehicleId ∈ lane.vehicles.map EntryVehicle.vehicleId

instance (lane : EntryLane) (vehicleId : String) : Decidable (lane.Holds vehicleId) :=
  inferInstanceAs (Decidable (_ ∈ _))

end EntryLane

/-- Why a gate is closed. -/
inductive GateReason
  | red
  | yellow
  | ringSpillbackHold
  | queueCap
  deriving DecidableEq, Repr

/-- `GateDecision`: open, or closed with its reason. -/
structure GateDecision where
  isOpen : Bool
  reason : Option GateReason := none
  deriving DecidableEq, Repr

/-- A row of the recent decisions. -/
structure GateRow where
  time : ℚ
  arm : Direction
  reason : String
  state : String
  vehicle : Option String := none
  deriving DecidableEq, Repr

structure GateCounts where
  red : Nat := 0
  yellow : Nat := 0
  ringSpillbackHold : Nat := 0
  queueCap : Nat := 0
  yellowCommit : Nat := 0
  spillbackExhausted : Nat := 0
  entryDenials : Nat := 0
  deriving DecidableEq, Repr

/-- The name a reason is recorded under. -/
def GateReason.value : GateReason → String
  | red => "red"
  | yellow => "yellow"
  | ringSpillbackHold => "ring_spillback_hold"
  | queueCap => "queue_cap"

/-- One more of a reason. -/
def GateCounts.count (counts : GateCounts) : GateReason → GateCounts
  | .red => { counts with red := counts.red + 1 }
  | .yellow => { counts with yellow := counts.yellow + 1 }
  | .ringSpillbackHold => { counts with ringSpillbackHold := counts.ringSpillbackHold + 1 }
  | .queueCap => { counts with queueCap := counts.queueCap + 1 }

/-- State of a `MeteredEntryGate`; the cursor it reads is an argument. -/
structure MeteredEntryGate where
  yellowLatched : List (String × String) := []
  spillbackHolds : List Direction := []
  lastState : Direction → Option GateReason := fun _ => none
  decisionCounts : GateCounts := {}
  denialCounts : GateCounts := {}
  recentDecisions : List GateRow := []

namespace MeteredEntryGate

variable {plan : MeteringPlan}

/-- A row appended to the last fifty. -/
def record (row : GateRow) (gate : MeteredEntryGate) : MeteredEntryGate :=
  { gate with
    recentDecisions := (gate.recentDecisions ++ [row]).drop (gate.recentDecisions.length + 1 - 50) }

def setSpillbackHolds (held : List Direction) (gate : MeteredEntryGate) : MeteredEntryGate :=
  { gate with spillbackHolds := held }

section

variable (arm : Direction)

def recordQueueCapEvent (now : ℚ) (gate : MeteredEntryGate) : MeteredEntryGate :=
  ({ gate with
      decisionCounts := gate.decisionCounts.count .queueCap } :
    MeteredEntryGate).record
      { time := pyRound now 2, arm := arm, reason := "queue_cap"
        state := "triggered" }

def recordYellowCommit (vehicleId : String) (now : ℚ)
    (gate : MeteredEntryGate) : MeteredEntryGate :=
  ({ gate with
      decisionCounts :=
        { gate.decisionCounts with
          yellowCommit := gate.decisionCounts.yellowCommit + 1 } } :
    MeteredEntryGate).record
      { time := pyRound now 2, arm := arm, reason := "yellow_commit"
        state := "committed", vehicle := some vehicleId }

def recordSpillbackExhaustedEvent (now : ℚ) (gate : MeteredEntryGate) : MeteredEntryGate :=
  ({ gate with
      decisionCounts :=
        { gate.decisionCounts with
          spillbackExhausted := gate.decisionCounts.spillbackExhausted + 1 } } :
    MeteredEntryGate).record
      { time := pyRound now 2, arm := arm, reason := "spillback_exhausted"
        state := "released" }

end

def recordEntryDenial (reason : GateReason) (gate : MeteredEntryGate) : MeteredEntryGate :=
  { gate with
    denialCounts := gate.denialCounts.count reason
    decisionCounts :=
      { gate.decisionCounts with
        entryDenials := gate.decisionCounts.entryDenials + 1 } }

def getArmReason (cursor : MeteringPhaseCursor plan) (approach : Direction)
    (gate : MeteredEntryGate) : Option GateReason :=
  if approach ∉ plan.meteredEntries then none
  else if approach ∈ gate.spillbackHolds then some .ringSpillbackHold
  else match MeteringPhaseCursor.getColor approach cursor with
    | .yellow => some .yellow
    | .red => some .red
    | .green => none

section

variable (cursor : MeteringPhaseCursor plan) (now : ℚ) (gate : MeteredEntryGate)

/-- The transition of one arm in `update`. -/
def updateArm (arm : Direction) : MeteredEntryGate :=
  let reason := gate.getArmReason cursor arm
  if reason = gate.lastState arm then gate
  else
    let moved : MeteredEntryGate :=
      { gate with lastState := Function.update gate.lastState arm reason }
    match reason with
    | some reason =>
      ({ moved with decisionCounts := gate.decisionCounts.count reason } : MeteredEntryGate).record
          { time := pyRound now 2, arm := arm, reason := reason.value
            state := "closed" }
    | none =>
      moved.record
        { time := pyRound now 2, arm := arm, reason := "open"
          state := "open" }

/-- `update`: the transitions of the metered arms, in the plan's order. -/
def update : MeteredEntryGate := plan.meteredEntries.foldl (updateArm cursor now) gate

end

/-- The latches without those set on this lane for vehicles that left it. -/
def prune (lane : EntryLane) (gate : MeteredEntryGate) : MeteredEntryGate :=
  { gate with
    yellowLatched := gate.yellowLatched.filter fun latch =>
      !(decide (latch.2 = lane.laneId) && !decide (lane.Holds latch.1)) }

def Latched (gate : MeteredEntryGate) (vehicleId : String) : Prop :=
  vehicleId ∈ gate.yellowLatched.map Prod.fst

instance (gate : MeteredEntryGate) (vehicleId : String) : Decidable (gate.Latched vehicleId) :=
  inferInstanceAs (Decidable (_ ∈ _))

def latch (vehicleId laneId : String) (gate : MeteredEntryGate) : MeteredEntryGate :=
  { gate with
    yellowLatched := (vehicleId, laneId) :: gate.yellowLatched }

/-- A closed gate, with its denial counted. -/
def deny (reason : GateReason) (gate : MeteredEntryGate) : GateDecision × MeteredEntryGate :=
  (⟨false, some reason⟩, gate.recordEntryDenial reason)

/-- `allows`, once the latches are pruned: the arm shows yellow. -/
def allowsYellow (approach : Direction) (lane : EntryLane) (now : ℚ)
    (gate : MeteredEntryGate) : GateDecision × MeteredEntryGate :=
  match lane.head with
  | none => gate.deny .yellow
  | some head =>
    if gate.Latched head.vehicleId then (⟨true, none⟩, gate)
    else if commitsThroughYellow head ⟨lane.length, true⟩ then
      (⟨true, none⟩, (gate.latch head.vehicleId lane.laneId).recordYellowCommit
        approach head.vehicleId now)
    else gate.deny .yellow

/-- `allows`, once the latches are pruned: the arm shows red. -/
def allowsRed (lane : EntryLane) (gate : MeteredEntryGate) : GateDecision × MeteredEntryGate :=
  match lane.head with
  | none => gate.deny .red
  | some head =>
    if gate.Latched head.vehicleId then (⟨true, none⟩, gate)
    else gate.deny .red

def allows (cursor : MeteringPhaseCursor plan) (approach : Direction) (lane : EntryLane) (now : ℚ)
    (gate : MeteredEntryGate) : GateDecision × MeteredEntryGate :=
  if approach ∉ plan.meteredEntries then (⟨true, none⟩, gate)
  else if approach ∈ gate.spillbackHolds then gate.deny .ringSpillbackHold
  else match MeteringPhaseCursor.getColor approach cursor with
    | .green => (⟨true, none⟩, gate)
    | .yellow => (gate.prune lane).allowsYellow approach lane now
    | .red => (gate.prune lane).allowsRed lane

section

variable (cursor : MeteringPhaseCursor plan)

/-- Recording transitions leaves the latches and the holds. -/
theorem update_latches (now : ℚ) (gate : MeteredEntryGate) :
    (gate.update cursor now).yellowLatched = gate.yellowLatched ∧
      (gate.update cursor now).spillbackHolds = gate.spillbackHolds := by
  have arm (gate : MeteredEntryGate) (arm : Direction) :
      (gate.updateArm cursor now arm).yellowLatched = gate.yellowLatched ∧
        (gate.updateArm cursor now arm).spillbackHolds = gate.spillbackHolds := by
    dsimp only [updateArm]
    split
    · exact ⟨rfl, rfl⟩
    · split <;> exact ⟨rfl, rfl⟩
  unfold update
  induction plan.meteredEntries generalizing gate with
  | nil => exact ⟨rfl, rfl⟩
  | cons first _ ih =>
    rw [List.foldl_cons]
    exact ⟨(ih _).1.trans (arm gate first).1, (ih _).2.trans (arm gate first).2⟩

/-- Consulting leaves the holds as they are. -/
theorem allows_holds (approach : Direction) (lane : EntryLane) (now : ℚ)
    (gate : MeteredEntryGate) : (gate.allows cursor approach lane now).2.spillbackHolds =
      gate.spillbackHolds := by
  unfold allows allowsYellow allowsRed
  split
  · rfl
  · split
    · rfl
    · split
      · rfl
      · split
        · rfl
        · split
          · rfl
          · split <;> rfl
      · split
        · rfl
        · split <;> rfl

end

end MeteredEntryGate
end UrbanFlow
