import UrbanFlow.Vehicles.LaneChange

/-!
# The registration of vehicles

The places where a vehicle's lane, its route, its manoeuvre and the lists of the lanes
change: the end of a lane change, `detach`, `update_state` and the attempts. `VehiclePool`
keeps the active and the exited vehicles. What a vehicle is registered on is counted.
-/

namespace UrbanFlow.LaneChange

open World

/-! ## A vehicle and its lanes -/

section

variable {Key L K : Type} [DecidableEq Key] [DecidableEq L] [Field K] [LinearOrder K]

section

variable (world : World Key L K)

def World.removeVehicle (lane : L) (key : Key) : World Key L K :=
  { world with
    registered := Function.update world.registered lane ((world.registered lane).erase key) }

def World.finishLaneChange (key : Key) : World Key L K :=
  let vehicle := world.vehicles key
  match vehicle.laneChange with
  | none => world
  | some maneuver =>
    let finished := world.setVehicle key { vehicle with laneChange := none }
    if vehicle.lane = some maneuver.originLane then finished
    else finished.removeVehicle maneuver.originLane key

def World.detach (key : Key) : World Key L K :=
  let finished := world.finishLaneChange key
  match (finished.vehicles key).lane with
  | some lane => finished.removeVehicle lane key
  | none => finished

/-- A vehicle has left its last lane. -/
def World.leave (lane : L) (key : Key) : World Key L K :=
  let removed := world.removeVehicle lane key
  removed.setVehicle key { removed.vehicles key with
      lane := none
      state := .exited
      speed := 0
      speed_nonneg := le_rfl }

/-- A vehicle drives on to the next lane of its route. -/
def World.enter (lane nextLane : L) (overflow : K) (key : Key) : World Key L K :=
  let removed := world.removeVehicle lane key
  (removed.setVehicle key { removed.vehicles key with
      lane := some nextLane
      position := overflow }).addVehicle nextLane key

end

variable (network : Network L K)

section

variable (world : World Key L K) (key : Key)

/-- The lane transition of `update_state`. -/
def World.crossLaneEnd : World Key L K := match (world.vehicles key).lane with
  | none => world
  | some lane =>
    if (network.lane lane).length ≤ (world.vehicles key).position then
      let finished := world.finishLaneChange key
      let vehicle := finished.vehicles key
      if lane ∈ vehicle.route then match vehicle.route[vehicle.route.idxOf lane + 1]? with
        | some nextLane =>
          let overflow := min (vehicle.position - (network.lane lane).length)
            ((network.lane nextLane).length * 0.5)
          finished.enter lane nextLane overflow key
        | none => finished.leave lane key
      -- `route.index` raises: the vehicle is taken off the road
      else (finished.finishLaneChange key).leave lane key
    else world

/-- The kinematics of `update_state`. -/
def Vehicle.moved (vehicle : Vehicle L K) (acceleration dt : K) : Vehicle L K :=
  let speed := max 0 (vehicle.speed + acceleration * dt)
  let isStopped : Bool := speed < vehicle.waitThreshold
  { vehicle with
    speed := speed
    speed_nonneg := le_max_left 0 _
    acceleration := if 0 < dt then (speed - vehicle.speed) / dt else 0
    position := vehicle.position + speed * dt
    state := if isStopped then .waiting else .approaching
    waitTime := if isStopped then vehicle.waitTime + dt else vehicle.waitTime }

def World.updateState (acceleration dt : K) : World Key L K :=
  let vehicle := world.vehicles key
  if vehicle.state = .exited then world
  else
    let moved := vehicle.moved acceleration dt
    let driven := world.setVehicle key moved
    let isDone : Bool := moved.laneChange.any fun maneuver => 1 ≤ maneuver.progress moved.position
    (if isDone then driven.finishLaneChange key else driven).crossLaneEnd network key

end

/-- What a vehicle is made from; its constructor refuses an empty route, no length and a
negative speed. -/
structure NewVehicle (L K : Type) [Field K] [LinearOrder K] where
  length : K
  length_pos : 0 < length
  desiredSpeed : K
  params : Option (Params K)
  waitThreshold : K
  firstLane : L
  furtherLanes : List L
  startPosition : K
  initialSpeed : K
  initialSpeed_nonneg : 0 ≤ initialSpeed
  turnIntent : Option TurnIntent

/-- `Vehicle.__init__`. -/
def NewVehicle.make (made : NewVehicle L K) : Vehicle L K where
  length := made.length
  length_pos := made.length_pos
  desiredSpeed := made.desiredSpeed
  params := made.params
  waitThreshold := made.waitThreshold
  lane := some made.firstLane
  route := made.firstLane :: made.furtherLanes
  laneChange := none
  position := made.startPosition
  speed := made.initialSpeed
  speed_nonneg := made.initialSpeed_nonneg
  acceleration := 0
  turnIntent := made.turnIntent
  state := if made.initialSpeed < made.waitThreshold then .waiting else .approaching
  waitTime := 0

/-! ## The pool -/

/-- `VehiclePool`, with the world its vehicles are in. -/
structure Pool (Key L K : Type) [Field K] [LinearOrder K] where
  world : World Key L K
  activeVehicles : List Key
  exitedVehicles : List Key
  lastLaneChange : Key → K

/-- What an attempt reads besides the world. -/
structure Setup (K : Type) [Field K] [LinearOrder K] where
  model : Model K
  maths : Elementary K
  draws : Call → Draws K
  laneUse : LaneUse
  currentTime : K

/-- What one `VehiclePool.update` reads besides the world: the accelerations that car
following and the stopping limits come to, and the vehicles that the audit stops. -/
structure TickInput (Key L K : Type) [Field K] [LinearOrder K] where
  dt : K
  setup : Key → Setup K
  acceleration : World Key L K → Key → K
  stops : World Key L K → Key → Bool

def Pool.addVehicle (pool : Pool Key L K) (key : Key) : Pool Key L K :=
  { pool with
    activeVehicles := if key ∈ pool.activeVehicles then pool.activeVehicles
      else pool.activeVehicles ++ [key] }

def Setup.attempt (setup : Setup K) (world : World Key L K) (lastChangeTime : K)
    (key : Key) : Option Bool × World Key L K :=
  LaneChange.attempt setup.model setup.maths setup.draws world network setup.laneUse
    setup.currentTime lastChangeTime key

/-- `_attempt_lane_change`; an attempt that raises is skipped. -/
def Pool.attemptLaneChange (pool : Pool Key L K) (setup : Setup K) (key : Key) : Pool Key L K :=
  match (pool.world.vehicles key).lane with
  | none => pool
  | some _ =>
    let result := setup.attempt network pool.world (pool.lastLaneChange key) key
    { pool with
      world := result.2
      lastLaneChange := if result.1 = some true then
          Function.update pool.lastLaneChange key setup.currentTime
        else pool.lastLaneChange }

/-- The body of the loop of `update`, with `to_remove`. -/
def Pool.updateVehicle (input : TickInput Key L K) (reached : Pool Key L K × List Key)
    (key : Key) : Pool Key L K × List Key :=
  if (reached.1.world.vehicles key).state = .exited then (reached.1, reached.2 ++ [key])
  else
    let pool := reached.1.attemptLaneChange network (input.setup key) key
    let world := pool.world.updateState network key (input.acceleration pool.world key) input.dt
    ({ pool with world := world },
      if (world.vehicles key).state = .exited then reached.2 ++ [key] else reached.2)

section

variable (pool : Pool Key L K)

/-- Moving a vehicle from the active to the exited ones. -/
def Pool.moveToExited (key : Key) : Pool Key L K :=
  { pool with
    activeVehicles := if key ∈ pool.activeVehicles then pool.activeVehicles.erase key
      else pool.activeVehicles
    exitedVehicles := if key ∈ pool.exitedVehicles then pool.exitedVehicles
      else pool.exitedVehicles ++ [key] }

/-- A vehicle that a collision stops. -/
def Vehicle.stopped (vehicle : Vehicle L K) : Vehicle L K :=
  { vehicle with speed := 0, speed_nonneg := le_rfl, acceleration := 0 }

/-- What `_collision_audit` does to the vehicles. -/
def World.stopVehicles (world : World Key L K) (stops : Key → Bool) : World Key L K :=
  { world with
    vehicles := fun key =>
      if stops key then (world.vehicles key).stopped else world.vehicles key }

def Pool.update (input : TickInput Key L K) : Pool Key L K :=
  let reached := pool.activeVehicles.foldl (Pool.updateVehicle network input) (pool, [])
  let moved := reached.2.foldl Pool.moveToExited reached.1
  { moved with
    world := moved.world.stopVehicles fun key =>
      key ∈ moved.activeVehicles ∧ input.stops moved.world key }

def Pool.reset : Pool Key L K :=
  let world := pool.activeVehicles.foldl detach pool.world
  { world := { world with changesStarted := 0, missedTurns := 0 }
    activeVehicles := []
    exitedVehicles := []
    lastLaneChange := fun _ => -999.0 }

end

/-! ## Runs -/

/-- A call: of the constructor and `add_vehicle`, of `attempt`, `update_state` and `detach`
of a vehicle, of the pool's `update` and `reset`, or of a controller that sets the
obstacles. -/
inductive Event (Key L K : Type) [Field K] [LinearOrder K]
  | spawn (key : Key) (made : NewVehicle L K)
  | attempt (key : Key) (setup : Setup K) (lastChangeTime : K)
  | update (key : Key) (acceleration dt : K)
  | detach (key : Key)
  | tick (input : TickInput Key L K)
  | reset
  | control (obstacles : L → Option (Obstacle K))

/-- A run: the pool, and of its history the vehicles made, those handed to the pool since
its last reset, those that have been detached, and those that have been detached and
neither attempted nor updated since. -/
structure Run (Key L K : Type) [Field K] [LinearOrder K] extends Pool Key L K where
  made : List Key
  handed : List Key
  detached : Set Key
  resting : Set Key

/-- The run after a call. A new vehicle is none of those made before, and the calls are of
vehicles that have been made. -/
def Run.step (run : Run Key L K) : Event Key L K → Run Key L K
  | .spawn key made =>
    if key ∈ run.made then run
    else
      { run with
        toPool :=
          { run.toPool with
            world := (run.world.setVehicle key made.make).addVehicle made.firstLane key
          }.addVehicle key
        made := run.made ++ [key]
        handed := run.handed ++ [key] }
  | .attempt key setup lastChangeTime =>
    if key ∈ run.made then
      { run with
        world := (setup.attempt network run.world lastChangeTime key).2
        resting := run.resting \ {key} }
    else run
  | .update key acceleration dt =>
    if key ∈ run.made then
      { run with
        world := run.world.updateState network key acceleration dt
        resting := run.resting \ {key} }
    else run
  | .detach key =>
    if key ∈ run.made then
      { run with
        world := run.world.detach key
        detached := insert key run.detached
        resting := insert key run.resting }
    else run
  | .tick input =>
    { run with
      toPool := run.toPool.update network input
      resting := run.resting \ {key | key ∈ run.activeVehicles} }
  | .reset =>
    { run with
      toPool := run.toPool.reset
      handed := []
      detached := run.detached ∪ {key | key ∈ run.activeVehicles}
      resting := run.resting ∪ {key | key ∈ run.activeVehicles} }
  | .control obstacles => { run with world := { run.world with virtualObstacle := obstacles } }

/-- A run begins with empty lanes and an empty pool; what the vehicles not made yet hold
does not matter. -/
def Run.start (vehicles : Key → Vehicle L K) : Run Key L K where
  world := ⟨vehicles, fun _ => [], fun _ => none, 0, 0⟩
  activeVehicles := []
  exitedVehicles := []
  lastLaneChange := fun _ => -999.0
  made := []
  handed := []
  detached := ∅
  resting := ∅

/-- The run of some calls. -/
def runOf (vehicles : Key → Vehicle L K) (events : List (Event Key L K)) : Run Key L K :=
  events.foldl (Run.step network) (Run.start vehicles)

end

/-! ## Counting registrations -/

section

variable {Key L K : Type} [DecidableEq Key] [Field K] [LinearOrder K]

section

variable (world : World Key L K)

/-- How many times a vehicle is registered on a lane. -/
def World.counts (key : Key) (lane : L) : Nat := (world.registered lane).count key

variable (vehicle : Vehicle L K)

@[simp] theorem counts_setVehicle (key other : Key) :
    (world.setVehicle key vehicle).counts other = world.counts other := rfl

@[simp] theorem vehicles_setVehicle_self (key : Key) :
    (world.setVehicle key vehicle).vehicles key = vehicle := by
  simp [setVehicle]

theorem vehicles_setVehicle_of_ne {key other : Key}
    (isOther : other ≠ key) :
    (world.setVehicle key vehicle).vehicles other = world.vehicles other := by
  simp [setVehicle, isOther]

end

variable [DecidableEq L]

section

variable (world : World Key L K) (lane : L) (key : Key)

@[simp] theorem vehicles_addVehicle : (world.addVehicle lane key).vehicles = world.vehicles := rfl

@[simp] theorem vehicles_removeVehicle :
    (world.removeVehicle lane key).vehicles = world.vehicles := rfl

theorem counts_addVehicle : (world.addVehicle lane key).counts key =
      Function.update (world.counts key) lane (max 1 (world.counts key lane)) := by
  funext l
  by_cases isLane : l = lane
  · subst isLane
    rw [Function.update_self]
    by_cases isMem : key ∈ world.registered l
    · have isCounted := List.count_pos_iff.mpr isMem
      simp [counts, addVehicle, isMem]
    · simp [counts, addVehicle, isMem, List.count_eq_zero_of_not_mem isMem]
  · simp [counts, addVehicle, isLane]

theorem counts_removeVehicle : (world.removeVehicle lane key).counts key =
      Function.update (world.counts key) lane (world.counts key lane - 1) := by
  funext l
  by_cases isLane : l = lane
  · subst isLane
    simp [counts, removeVehicle]
  · simp [counts, removeVehicle, isLane]

end

/-! ### Other vehicles -/

/-- Nothing changes but for one vehicle. -/
structure World.Frames (world later : World Key L K) (key : Key) : Prop where
  vehicles : ∀ other ≠ key, later.vehicles other = world.vehicles other
  counts : ∀ other ≠ key, later.counts other = world.counts other
  obstacles : later.virtualObstacle = world.virtualObstacle

namespace World.Frames

variable {world middle later : World Key L K} {key : Key}

omit [DecidableEq L] in
theorem refl : world.Frames world key := ⟨fun _ _ => rfl, fun _ _ => rfl, rfl⟩

omit [DecidableEq L] in
theorem trans (first : world.Frames middle key) (second : middle.Frames later key) :
    world.Frames later key where
  vehicles other isOther := (second.vehicles other isOther).trans (first.vehicles other isOther)
  counts other isOther := (second.counts other isOther).trans (first.counts other isOther)
  obstacles := second.obstacles.trans first.obstacles

omit [DecidableEq L] in
theorem setVehicle (vehicle : Vehicle L K) : world.Frames (world.setVehicle key vehicle) key where
  vehicles _ isOther := vehicles_setVehicle_of_ne world vehicle isOther
  counts _ _ := rfl
  obstacles := rfl

theorem addVehicle (lane : L) : world.Frames (world.addVehicle lane key) key where
  vehicles _ _ := rfl
  obstacles := rfl
  counts other isOther := by
    funext l
    by_cases isLane : l = lane
    · subst isLane
      by_cases isMem : key ∈ world.registered l
      · simp [World.counts, World.addVehicle, isMem]
      · simp [World.counts, World.addVehicle, isMem, isOther.symm]
    · simp [World.counts, World.addVehicle, isLane]

theorem removeVehicle (lane : L) : world.Frames (world.removeVehicle lane key) key where
  vehicles _ _ := rfl
  obstacles := rfl
  counts other isOther := by
    funext l
    by_cases isLane : l = lane
    · subst isLane
      simp [World.counts, World.removeVehicle, List.count_erase_of_ne isOther]
    · simp [World.counts, World.removeVehicle, isLane]

theorem finishLaneChange : world.Frames (world.finishLaneChange key) key := by
  dsimp only [World.finishLaneChange]
  split
  · exact refl
  · split
    · exact setVehicle _
    · exact (setVehicle _).trans (removeVehicle _)

theorem detach : world.Frames (world.detach key) key := by
  dsimp only [World.detach]
  split
  · exact finishLaneChange.trans (removeVehicle _)
  · exact finishLaneChange

theorem leave (lane : L) : world.Frames (world.leave lane key) key :=
  (removeVehicle lane).trans (setVehicle _)

theorem enter (lane nextLane : L) (overflow : K) :
    world.Frames (world.enter lane nextLane overflow key) key :=
  ((removeVehicle lane).trans (setVehicle _)).trans (addVehicle nextLane)

theorem crossLaneEnd {network : Network L K} :
    world.Frames (world.crossLaneEnd network key) key := by
  unfold World.crossLaneEnd
  split
  · exact refl
  · split
    · dsimp only
      split
      · split
        · exact finishLaneChange.trans (enter _ _ _)
        · exact finishLaneChange.trans (leave _)
      · exact (finishLaneChange.trans finishLaneChange).trans (leave _)
    · exact refl

theorem updateState {network : Network L K} {acceleration dt : K} :
    world.Frames (world.updateState network key acceleration dt) key := by
  dsimp only [World.updateState]
  split
  · exact refl
  · refine Frames.trans ?_ crossLaneEnd
    split
    · exact (setVehicle _).trans finishLaneChange
    · exact setVehicle _

end World.Frames

/-! ### The vehicle itself -/

/-- A vehicle is on a lane, or leaves it. -/
def Vehicle.Occupies (vehicle : Vehicle L K) (lane : L) : Prop :=
  vehicle.lane = some lane ∨ vehicle.laneChange.map Maneuver.originLane = some lane

attribute [local simp] counts Vehicle.Occupies addVehicle

/-- A vehicle has a lane of its route as long as it has not exited, and is registered at
most once on a lane it occupies and on no other: where it is present, on each of them. The
lane it leaves is as long as its lane, and where it was made on its lane it is before the
end of it. -/
structure Registered (network : Network L K) (isPresent isBefore : Prop) (vehicle : Vehicle L K)
    (counts : L → Nat) : Prop where
  hasLane : vehicle.state ≠ .exited → ∃ lane, vehicle.lane = some lane
  onRoute : ∀ lane, vehicle.lane = some lane → lane ∈ vehicle.route
  gone : vehicle.state = .exited → vehicle.lane = none ∧ vehicle.laneChange = none
  once : ∀ lane, counts lane ≤ 1
  only : ∀ lane, counts lane ≠ 0 → vehicle.Occupies lane
  every : isPresent → ∀ lane, vehicle.Occupies lane → counts lane ≠ 0
  parallel : ∀ maneuver lane, vehicle.laneChange = some maneuver → vehicle.lane = some lane →
    (network.lane maneuver.originLane).length = (network.lane lane).length
  before : isBefore → IsStrictOrderedRing K → ∀ lane, vehicle.lane = some lane →
    vehicle.position ≤ (network.lane lane).length

/-- A vehicle of a world is registered as it should be. -/
def World.Sound (world : World Key L K) (network : Network L K) (isPresent isBefore : Prop)
    (key : Key) : Prop :=
  Registered network isPresent isBefore (world.vehicles key) (world.counts key)

variable {network : Network L K} {isPresent isBefore : Prop} {world : World Key L K} {key : Key}

omit [DecidableEq Key] [DecidableEq L] in
theorem Registered.changed {isStillBefore : Prop} {vehicle changed : Vehicle L K}
    {counts : L → Nat} (registered : Registered network isPresent isBefore vehicle counts)
    (sameLane : changed.lane = vehicle.lane) (sameChange : changed.laneChange = vehicle.laneChange)
    (onRoute : ∀ lane, vehicle.lane = some lane → lane ∈ changed.route)
    (sameState : changed.state = .exited ↔ vehicle.state = .exited)
    (samePosition : isStillBefore → isBefore ∧ changed.position = vehicle.position) :
    Registered network isPresent isStillBefore changed counts where
  hasLane notExited := by
    rw [sameLane]
    exact registered.hasLane fun isExited => notExited (sameState.mpr isExited)
  onRoute lane isLane := onRoute lane (sameLane ▸ isLane)
  gone isExited := by
    rw [sameLane, sameChange]
    exact registered.gone (sameState.mp isExited)
  once := registered.once
  only lane isCounted := by
    rw [Vehicle.Occupies, sameLane, sameChange]
    exact registered.only lane isCounted
  every present lane occupies := by
    rw [Vehicle.Occupies, sameLane, sameChange] at occupies
    exact registered.every present lane occupies
  parallel := by
    rw [sameLane, sameChange]
    exact registered.parallel
  before isStill := by
    rw [sameLane, (samePosition isStill).2]
    exact registered.before (samePosition isStill).1

omit [DecidableEq Key] [DecidableEq L] in
theorem Registered.not_exited {vehicle : Vehicle L K} {counts : L → Nat} {lane : L}
    (registered : Registered network isPresent isBefore vehicle counts)
    (isLane : vehicle.lane = some lane) : vehicle.state ≠ .exited := by
  intro isExited
  rw [(registered.gone isExited).1] at isLane
  cases isLane

theorem vehicles_finishLaneChange : (world.finishLaneChange key).vehicles key =
      { world.vehicles key with laneChange := none } := by
  dsimp only [finishLaneChange]
  split
  · rename_i notChanging
    rw [← notChanging]
  · split
    · simp
    · simp

theorem sound_finishLaneChange (sound : world.Sound network isPresent isBefore key) :
    (world.finishLaneChange key).Sound network isPresent isBefore key := by
  unfold Sound at sound ⊢
  rw [vehicles_finishLaneChange]
  have occupies_of {lane : L} :
      Vehicle.Occupies { world.vehicles key with laneChange := none } lane ↔
        (world.vehicles key).lane = some lane := by
    simp
  cases isChange : (world.vehicles key).laneChange with
  | none =>
    have isSame : world.finishLaneChange key = world := by simp [finishLaneChange, isChange]
    rw [isSame]
    exact sound.changed rfl isChange.symm sound.onRoute Iff.rfl fun isBefore => ⟨isBefore, rfl⟩
  | some maneuver =>
    have origin_of {lane : L} : (world.vehicles key).Occupies lane ↔
          (world.vehicles key).lane = some lane ∨ maneuver.originLane = lane := by
      simp [isChange]
    by_cases isLane : (world.vehicles key).lane = some maneuver.originLane
    · have isCounts : (world.finishLaneChange key).counts key = world.counts key := by
        simp [finishLaneChange, isChange, isLane]
      rw [isCounts]
      refine ⟨sound.hasLane, sound.onRoute, fun isExited => ⟨(sound.gone isExited).1, rfl⟩,
        sound.once, fun lane isCounted => ?_, fun present lane occupies => ?_,
        fun maneuver lane isNone => ?_, sound.before⟩
      · rw [occupies_of]
        obtain isOn | isOrigin := origin_of.mp (sound.only lane isCounted)
        · exact isOn
        · rwa [← isOrigin]
      · exact sound.every present lane (origin_of.mpr (Or.inl (occupies_of.mp occupies)))
      · cases isNone
    · have isCounts : (world.finishLaneChange key).counts key =
          Function.update (world.counts key) maneuver.originLane
            (world.counts key maneuver.originLane - 1) := by
        simp only [finishLaneChange, isChange, isLane, if_false]
        rw [counts_removeVehicle, counts_setVehicle]
      have isNone : world.counts key maneuver.originLane - 1 = 0 :=
        Nat.sub_eq_zero_of_le (sound.once maneuver.originLane)
      rw [isCounts, isNone]
      refine ⟨sound.hasLane, sound.onRoute, fun isExited => ⟨(sound.gone isExited).1, rfl⟩,
        fun lane => ?_, fun lane isCounted => ?_, fun present lane occupies => ?_,
        fun maneuver lane isNone => ?_, sound.before⟩
      · by_cases isOrigin : lane = maneuver.originLane
        · simp [isOrigin]
        · simpa [isOrigin] using sound.once lane
      · have notOrigin : lane ≠ maneuver.originLane := by
          rintro rfl
          simp at isCounted
        rw [Function.update_of_ne notOrigin] at isCounted
        exact occupies_of.mpr
          ((origin_of.mp (sound.only lane isCounted)).resolve_right notOrigin.symm)
      · have isOn := occupies_of.mp occupies
        have notOrigin : lane ≠ maneuver.originLane := by
          rintro rfl
          exact isLane isOn
        rw [Function.update_of_ne notOrigin]
        exact sound.every present lane (origin_of.mpr (Or.inl isOn))
      · cases isNone

theorem counts_removeVehicle_eq_zero {lane : L} (sound : world.Sound network isPresent isBefore key)
    (isLane : (world.vehicles key).lane = some lane)
    (notChanging : (world.vehicles key).laneChange = none) :
    (world.removeVehicle lane key).counts key = fun _ => 0 := by
  rw [counts_removeVehicle, Nat.sub_eq_zero_of_le (sound.once lane)]
  funext l
  by_cases isSame : l = lane
  · rw [isSame, Function.update_self]
  · rw [Function.update_of_ne isSame]
    by_contra isCounted
    have occupies := sound.only l isCounted
    simp only [Vehicle.Occupies, isLane, notChanging] at occupies
    simp [Ne.symm isSame] at occupies

section

variable {isStillBefore : Prop}

variable (sound : world.Sound network isPresent isBefore key)

include sound

theorem sound_leave {lane : L}
    (isLane : (world.vehicles key).lane = some lane)
    (notChanging : (world.vehicles key).laneChange = none) :
    (world.leave lane key).Sound network isPresent isStillBefore key := by
  unfold Sound leave
  dsimp only
  rw [vehicles_setVehicle_self, counts_setVehicle,
    counts_removeVehicle_eq_zero sound isLane notChanging]
  refine ⟨fun notExited => absurd rfl notExited, fun l isNone => ?_,
    fun _ => ⟨rfl, notChanging⟩, fun _ => Nat.zero_le 1, fun _ isCounted => absurd rfl isCounted,
    fun _ l occupies => ?_, fun _ _ _ isNone => ?_, fun _ _ l isNone => ?_⟩
  · cases isNone
  · simp [notChanging] at occupies
  · cases isNone
  · cases isNone

theorem sound_enter {lane nextLane : L} {position : K}
    (isLane : (world.vehicles key).lane = some lane)
    (notChanging : (world.vehicles key).laneChange = none)
    (isNext : nextLane ∈ (world.vehicles key).route) :
    (world.enter lane nextLane (min position ((network.lane nextLane).length * 0.5))
      key).Sound network isPresent isStillBefore key := by
  have notExited := sound.not_exited isLane
  unfold Sound enter
  dsimp only
  rw [vehicles_addVehicle, vehicles_setVehicle_self, counts_addVehicle, counts_setVehicle,
    counts_removeVehicle_eq_zero sound isLane notChanging]
  refine ⟨fun _ => ⟨nextLane, rfl⟩, fun l isOn => ?_, fun isExited => absurd isExited notExited,
    fun l => ?_, fun l isCounted => ?_, fun _ l occupies => ?_, fun _ _ isChange => ?_,
    fun _ _ l isOn => ?_⟩
  · cases isOn
    exact isNext
  · by_cases isSame : l = nextLane
    · simp [isSame]
    · simp [isSame]
  · have isSame : l = nextLane := by
      by_contra isOther
      simp [isOther] at isCounted
    exact Or.inl (congrArg some isSame.symm)
  · have isSame : nextLane = l := by
      simpa [notChanging] using occupies
    simp [isSame]
  · simp [notChanging] at isChange
  · cases isOn
    have isPositive := (network.lane nextLane).length_pos
    refine (min_le_right _ _).trans ?_
    linarith

/-- Whatever its position, a vehicle is before the end of its lane afterwards. -/
theorem sound_crossLaneEnd :
    (world.crossLaneEnd network key).Sound network isPresent isStillBefore key := by
  unfold crossLaneEnd
  cases isLane : (world.vehicles key).lane with
  | none =>
    refine { sound with before := fun _ _ lane isSome => ?_ }
    rw [isLane] at isSome
    cases isSome
  | some lane =>
    dsimp only
    split
    · have finished := sound_finishLaneChange sound
      have onLane : ((world.finishLaneChange key).vehicles key).lane = some lane := by
        rw [vehicles_finishLaneChange, isLane]
      have notChanging : ((world.finishLaneChange key).vehicles key).laneChange = none := by
        rw [vehicles_finishLaneChange]
      split
      · split
        · rename_i nextLane isNext
          exact sound_enter finished onLane notChanging (List.mem_of_getElem? isNext)
        · exact sound_leave finished onLane notChanging
      · rename_i notOnRoute
        exact absurd (finished.onRoute lane onLane) notOnRoute
    · rename_i isShort
      refine { sound with before := fun _ _ l isOn => ?_ }
      cases isLane.symm.trans isOn
      exact (not_le.mp isShort).le

end

theorem sound_updateState {acceleration dt : K}
    (sound : world.Sound network isPresent isBefore key) :
    (world.updateState network key acceleration dt).Sound network isPresent isBefore key := by
  dsimp only [updateState]
  split
  · exact sound
  · rename_i notExited
    have isMoving : ((world.vehicles key).moved acceleration dt).state ≠ .exited := by
      dsimp only [Vehicle.moved]
      split
      all_goals simp
    have driven : (world.setVehicle key ((world.vehicles key).moved acceleration dt)).Sound
        network isPresent False key := by
      unfold Sound
      rw [vehicles_setVehicle_self, counts_setVehicle]
      exact sound.changed rfl rfl sound.onRoute
        ⟨fun isExited => absurd isExited isMoving, fun isExited => absurd isExited notExited⟩
        False.elim
    split
    · exact sound_crossLaneEnd (sound_finishLaneChange driven)
    · exact sound_crossLaneEnd driven

/-- A detached vehicle is registered nowhere. -/
theorem counts_detach (sound : world.Sound network isPresent isBefore key) (lane : L) :
    (world.detach key).counts key lane = 0 := by
  have finished := sound_finishLaneChange sound
  have notChanging : ((world.finishLaneChange key).vehicles key).laneChange = none := by
    rw [vehicles_finishLaneChange]
  dsimp only [detach]
  split
  · rename_i l isLane
    rw [counts_removeVehicle_eq_zero finished isLane notChanging]
  · rename_i isNone
    by_contra isCounted
    have occupies := finished.only lane isCounted
    simp [isNone, notChanging] at occupies

theorem vehicles_detach :
    (world.detach key).vehicles key = { world.vehicles key with laneChange := none } := by
  dsimp only [detach]
  split
  · rw [vehicles_removeVehicle, vehicles_finishLaneChange]
  · rw [vehicles_finishLaneChange]

theorem sound_detach (sound : world.Sound network isPresent isBefore key) :
    (world.detach key).Sound network False isBefore key := by
  have isNone : (world.detach key).counts key = fun _ => 0 := funext (counts_detach sound)
  unfold Sound at sound ⊢
  rw [isNone, vehicles_detach]
  refine ⟨sound.hasLane, sound.onRoute, fun isExited => ⟨(sound.gone isExited).1, rfl⟩,
    fun _ => Nat.zero_le 1, fun _ isCounted => absurd rfl isCounted, False.elim,
    fun _ _ isNone => ?_, sound.before⟩
  cases isNone

/-! ### Attempts -/

variable (network) in
/-- What an attempt can do to a world: nothing, change a movement whose route cannot be
generated, re-route a vehicle, or begin a change. -/
inductive Attempted (world : World Key L K) (key : Key) : World Key L K → Prop
  | stay : Attempted world key world
  | turned (turn : TurnIntent) : Attempted world key
        (world.setVehicle key { world.vehicles key with turnIntent := some turn })
  | rerouted (turn : TurnIntent) (lane : L) (route : List L) (missedTurns : Nat)
      (isLane : (world.vehicles key).lane = some lane)
      (onRoute : lane ∈ route) :
      Attempted world key { world.setVehicle key
            { world.vehicles key with turnIntent := some turn, route := route } with
          missedTurns := missedTurns }
  | began (origin target : L) (route : List L) (distance : K) (distance_pos : 0 < distance)
      (changesStarted : Nat)
      (isLane : (world.vehicles key).lane = some origin)
      (notChanging : (world.vehicles key).laneChange = none)
      (onRoute : target ∈ route)
      (isParallel : (network.lane origin).length = (network.lane target).length) :
      Attempted world key { world.beginLaneChange key origin target route distance distance_pos with
          changesStarted := changesStarted }

omit [DecidableEq L] in
theorem mem_generateRoute {direction : Direction} {index : Nat} {turn : TurnIntent}
    {lanes route : List L} {lane : L} (isIncoming : network.incoming direction = some lanes)
    (isLane : lanes[index]? = some lane)
    (isRoute : network.generateRoute direction index turn = some route) : lane ∈ route := by
  obtain ⟨_, isIncoming', isRoute⟩ := Option.bind_eq_some_iff.mp isRoute
  cases isIncoming.symm.trans isIncoming'
  obtain ⟨_, isLane', isRoute⟩ := Option.bind_eq_some_iff.mp isRoute
  cases isLane.symm.trans isLane'
  obtain ⟨connected, -, isRoute⟩ := Option.bind_eq_some_iff.mp isRoute
  rw [← Option.some.inj isRoute]
  exact List.mem_cons_self

theorem attempted (setup : Setup K) (lastChangeTime : K) : Attempted network world key
      (setup.attempt network world lastChangeTime key).2 := by
  unfold Setup.attempt LaneChange.attempt
  dsimp only
  split
  · exact .stay
  · exact .stay
  · rename_i direction idx isMiss
    obtain ⟨lane, lanes, isLane, isIncoming, isIdx⟩ := decision_miss isMiss
    unfold missTurn
    split
    · exact .stay
    · dsimp only
      split
      · exact .turned _
      · rename_i route isRoute
        exact .rerouted _ lane route _ isLane (mem_generateRoute isIncoming isIdx isRoute)
  · rename_i direction targetIdx isChange
    obtain ⟨lane, lanes, isLane, notChanging, isIncoming, isMem, -⟩ := decision_change isChange
    split
    · rename_i origin target newRoute isOrigin isTarget isRoute
      obtain ⟨lanes', isIncoming', isTarget⟩ := Option.bind_eq_some_iff.mp isTarget
      cases isIncoming.symm.trans isIncoming'
      cases isLane.symm.trans isOrigin
      split
      · exact .began lane target newRoute _ _ _ isLane notChanging
          (mem_generateRoute isIncoming isTarget isRoute)
          (network.parallel direction lanes isIncoming lane isMem target
            (List.mem_of_getElem? isTarget))
      · exact .stay
    · exact .stay

theorem Attempted.frames {later : World Key L K}
    (isAttempted : Attempted network world key later) : world.Frames later key := by
  cases isAttempted with
  | stay => exact .refl
  | turned => exact .setVehicle _
  | rerouted turn _ route =>
    have framed : world.Frames (world.setVehicle key
        { world.vehicles key with turnIntent := some turn, route := route }) key :=
      .setVehicle _
    exact ⟨framed.vehicles, framed.counts, framed.obstacles⟩
  | began origin target route distance distance_pos =>
    have framed : world.Frames
        (world.beginLaneChange key origin target route distance distance_pos) key :=
      World.Frames.trans (.setVehicle _) (.addVehicle target)
    exact ⟨framed.vehicles, framed.counts, framed.obstacles⟩

theorem sound_beginLaneChange {origin target : L} {route : List L} {distance : K}
    {distance_pos : 0 < distance} (sound : world.Sound network isPresent isBefore key)
    (isLane : (world.vehicles key).lane = some origin)
    (notChanging : (world.vehicles key).laneChange = none) (onRoute : target ∈ route)
    (isParallel : (network.lane origin).length = (network.lane target).length) :
    (world.beginLaneChange key origin target route distance distance_pos).Sound
      network isPresent isBefore key := by
  have notExited := sound.not_exited isLane
  have occupies_of {lane : L} : (world.vehicles key).Occupies lane ↔ origin = lane := by
    simp [isLane, notChanging]
  unfold Sound beginLaneChange
  dsimp only
  rw [vehicles_addVehicle, vehicles_setVehicle_self, counts_addVehicle, counts_setVehicle]
  refine ⟨fun _ => ⟨target, rfl⟩, fun l isOn => ?_, fun isExited => absurd isExited notExited,
    fun l => ?_, fun l isCounted => ?_, fun present l occupies => ?_,
    fun maneuver l isManeuver isOn => ?_, fun wasBefore isOrdered l isOn => ?_⟩
  · cases isOn
    exact onRoute
  · by_cases isTarget : l = target
    · simpa [isTarget] using sound.once target
    · simpa [isTarget] using sound.once l
  · by_cases isTarget : l = target
    · exact Or.inl (congrArg some isTarget.symm)
    · rw [Function.update_of_ne isTarget] at isCounted
      exact Or.inr (congrArg some (occupies_of.mp (sound.only l isCounted)))
  · by_cases isTarget : l = target
    · simp [isTarget]
    · rw [Function.update_of_ne isTarget]
      refine sound.every present l (occupies_of.mpr ?_)
      obtain isOn | isOrigin := occupies
      · exact absurd (Option.some.inj isOn).symm isTarget
      · exact Option.some.inj isOrigin
  · rw [← Option.some.inj isManeuver, ← Option.some.inj isOn]
    exact isParallel
  · rw [← Option.some.inj isOn, ← isParallel]
    exact sound.before wasBefore isOrdered origin isLane

theorem Attempted.sound {later : World Key L K} (isAttempted : Attempted network world key later)
    (sound : world.Sound network isPresent isBefore key) :
    later.Sound network isPresent isBefore key := by
  cases isAttempted with
  | stay => exact sound
  | turned =>
    unfold Sound at sound ⊢
    rw [vehicles_setVehicle_self, counts_setVehicle]
    exact sound.changed rfl rfl sound.onRoute Iff.rfl fun isBefore => ⟨isBefore, rfl⟩
  | rerouted turn _ route _ isLane onRoute =>
    change (world.setVehicle key
      { world.vehicles key with turnIntent := some turn, route := route }).Sound
        network isPresent isBefore key
    unfold Sound at sound ⊢
    rw [vehicles_setVehicle_self, counts_setVehicle]
    refine sound.changed rfl rfl (fun l isOn => ?_) Iff.rfl fun isBefore => ⟨isBefore, rfl⟩
    cases isLane.symm.trans isOn
    exact onRoute
  | began origin target route distance distance_pos changesStarted isLane notChanging onRoute
      isParallel =>
      exact sound_beginLaneChange sound isLane notChanging onRoute isParallel

/-! ### Exited vehicles -/

theorem Attempted.sameState {later : World Key L K}
    (isAttempted : Attempted network world key later) :
    (later.vehicles key).state = (world.vehicles key).state := by
  cases isAttempted with
  | stay => rfl
  | turned => rw [vehicles_setVehicle_self]
  | rerouted =>
    dsimp only
    rw [vehicles_setVehicle_self]
  | began =>
    simp [beginLaneChange]

theorem updateState_exited {acceleration dt : K} (isExited : (world.vehicles key).state = .exited) :
    world.updateState network key acceleration dt = world := by
  simp [updateState, isExited]

/-! ## Runs -/

omit [DecidableEq Key] [DecidableEq L] in
theorem Registered.mono {isAlsoPresent : Prop} {vehicle : Vehicle L K} {counts : L → Nat}
    (registered : Registered network isPresent isBefore vehicle counts)
    (isWeaker : isAlsoPresent → isPresent) :
    Registered network isAlsoPresent isBefore vehicle counts :=
  { registered with every := fun present => registered.every (isWeaker present) }

/-- The vehicles made are registered as they should be, those not made and those resting
nowhere, and those gone have exited. -/
structure World.Valid (world : World Key L K) (network : Network L K) (isBefore : Prop)
    (made : List Key) (detached resting : Set Key) (gone : List Key) : Prop where
  sound : ∀ key ∈ made, world.Sound network (key ∉ detached) isBefore key
  unmade : ∀ key ∉ made, ∀ lane, world.counts key lane = 0
  resting : ∀ key ∈ resting, ∀ lane, world.counts key lane = 0
  gone : ∀ key ∈ gone, (world.vehicles key).state = .exited
  atEnd : isBefore → ∀ lane obstacle, world.virtualObstacle lane = some obstacle →
    (network.lane lane).length ≤ obstacle.position

namespace World.Valid

variable {later : World Key L K} {made gone : List Key} {detached resting : Set Key}

variable (valid : world.Valid network isBefore made detached resting gone)

include valid

omit [DecidableEq L] in
/-- What is to be shown of a change of one vehicle. -/
theorem step {nowDetached nowResting : Set Key}
    (frames : world.Frames later key) (isMade : key ∈ made)
    (sound : later.Sound network (key ∉ nowDetached) isBefore key)
    (staysDetached : detached ⊆ nowDetached) (mayRest : nowResting ⊆ insert key resting)
    (rests : key ∈ nowResting → ∀ lane, later.counts key lane = 0)
    (staysGone : (world.vehicles key).state = .exited → (later.vehicles key).state = .exited) :
    later.Valid network isBefore made nowDetached nowResting gone where
  sound other otherMade := by
    by_cases isOther : other = key
    · rw [isOther]
      exact sound
    · have same := valid.sound other otherMade
      unfold Sound at same ⊢
      rw [frames.vehicles other isOther, frames.counts other isOther]
      exact same.mono fun notDetached isDetached => notDetached (staysDetached isDetached)
  unmade other notMade lane := by
    have isOther : other ≠ key := by
      rintro rfl
      exact notMade isMade
    rw [frames.counts other isOther]
    exact valid.unmade other notMade lane
  resting other isResting lane := by
    by_cases isOther : other = key
    · subst isOther
      exact rests isResting lane
    · rw [frames.counts other isOther]
      exact valid.resting other ((mayRest isResting).resolve_left isOther) lane
  gone other isGone := by
    by_cases isOther : other = key
    · rw [isOther] at isGone ⊢
      exact staysGone (valid.gone key isGone)
    · rw [frames.vehicles other isOther]
      exact valid.gone other isGone
  atEnd := by
    rw [frames.obstacles]
    exact valid.atEnd

omit [DecidableEq L] in
theorem rest_less {nowResting : Set Key}
    (isLess : nowResting ⊆ resting) : world.Valid network isBefore made detached nowResting gone :=
  { valid with resting := fun key isResting => valid.resting key (isLess isResting) }

theorem attempted
    (isMade : key ∈ made) (isAttempted : Attempted network world key later) :
    later.Valid network isBefore made detached (resting \ {key}) gone :=
  valid.step isAttempted.frames isMade (isAttempted.sound (valid.sound key isMade))
    (fun _ isDetached => isDetached) (fun _ isResting => Or.inr isResting.1)
    (fun isResting => absurd rfl isResting.2) fun isExited => isAttempted.sameState.trans isExited

theorem updated {acceleration dt : K} (isMade : key ∈ made) :
    (world.updateState network key acceleration dt).Valid network isBefore made detached (resting \ {key})
      gone :=
  valid.step .updateState isMade (sound_updateState (valid.sound key isMade))
    (fun _ isDetached => isDetached) (fun _ isResting => Or.inr isResting.1)
    (fun isResting => absurd rfl isResting.2) fun isExited => by rwa [updateState_exited isExited]

theorem detached_one
    (isMade : key ∈ made) :
    (world.detach key).Valid network isBefore made (insert key detached) (insert key resting) gone :=
  valid.step .detach isMade ((sound_detach (valid.sound key isMade)).mono fun notDetached =>
      notDetached (Set.mem_insert key detached))
    (Set.subset_insert key detached) (fun _ isResting => isResting)
    (fun _ => counts_detach (valid.sound key isMade)) fun isExited => by
      rw [vehicles_detach]
      exact isExited

theorem detached_all {keys : List Key}
    (areMade : ∀ key ∈ keys, key ∈ made) :
    (keys.foldl detach world).Valid network isBefore made (detached ∪ {key | key ∈ keys})
      (resting ∪ {key | key ∈ keys}) gone := by
  induction keys generalizing world detached resting with
  | nil => simpa using valid
  | cons key keys ih =>
    have later := ih (valid.detached_one (areMade key List.mem_cons_self)) fun other isOther =>
        areMade other (List.mem_cons_of_mem key isOther)
    have isUnion (keptSet : Set Key) : insert key keptSet ∪ {other | other ∈ keys} =
          keptSet ∪ {other | other ∈ key :: keys} := by
      ext other
      simp only [Set.mem_union, Set.mem_insert_iff, Set.mem_ofPred_eq, List.mem_cons]
      tauto
    rwa [isUnion, isUnion] at later

omit [DecidableEq L] in
theorem stopped
    (stops : Key → Bool) :
    (world.stopVehicles stops).Valid network isBefore made detached resting gone where
  sound key isMade := by
    have same := valid.sound key isMade
    unfold Sound at same ⊢
    change Registered network _ isBefore (if stops key then (world.vehicles key).stopped
      else world.vehicles key) (world.counts key)
    split
    · exact same.changed rfl rfl same.onRoute Iff.rfl fun isBefore => ⟨isBefore, rfl⟩
    · exact same
  unmade := valid.unmade
  resting := valid.resting
  gone key isGone := by
    change (if stops key then (world.vehicles key).stopped else world.vehicles key).state = .exited
    split
    · exact valid.gone key isGone
    · exact valid.gone key isGone
  atEnd := valid.atEnd

omit [DecidableEq L] in
theorem gone_more
    (isExited : (world.vehicles key).state = .exited) :
    world.Valid network isBefore made detached resting (gone ++ [key]) :=
  { valid with
    gone := fun other isGone => by
      obtain isGone | isKey := List.mem_append.mp isGone
      · exact valid.gone other isGone
      · rwa [List.mem_singleton.mp isKey] }

omit [DecidableEq L] in
theorem gone_less {fewer : List Key}
    (areGone : ∀ key ∈ fewer, key ∈ gone) :
    world.Valid network isBefore made detached resting fewer :=
  { valid with gone := fun key isGone => valid.gone key (areGone key isGone) }

end World.Valid

/-! ### The pool -/

section

variable {made handed : List Key} {detached resting : Set Key}

theorem valid_attemptLaneChange {pool : Pool Key L K} {setup : Setup K} {gone : List Key}
    (valid : pool.world.Valid network isBefore made detached resting gone) (isMade : key ∈ made)
    (notResting : key ∉ resting) :
    (pool.attemptLaneChange network setup key).world.Valid network isBefore made detached resting gone := by
  unfold Pool.attemptLaneChange
  split
  · exact valid
  · exact (valid.attempted isMade (attempted setup (pool.lastLaneChange key))).rest_less
      fun other isResting => ⟨isResting, fun isKey => notResting (isKey ▸ isResting)⟩

/-- What the loop of `update` keeps. -/
theorem valid_updateVehicle {input : TickInput Key L K} {active exited : List Key}
    {reached : Pool Key L K × List Key} (isMade : key ∈ made) (isActive : key ∈ active)
    (notResting : key ∉ resting)
    (valid : reached.1.world.Valid network isBefore made detached resting (exited ++ reached.2) ∧
      reached.1.activeVehicles = active ∧ reached.1.exitedVehicles = exited ∧
      ∀ other ∈ reached.2, other ∈ active) :
    let later := Pool.updateVehicle network input reached key
    later.1.world.Valid network isBefore made detached resting (exited ++ later.2) ∧
      later.1.activeVehicles = active ∧ later.1.exitedVehicles = exited ∧
      ∀ other ∈ later.2, other ∈ active := by
  obtain ⟨valid, sameActive, sameExited, areActive⟩ := valid
  have areStillActive : ∀ other ∈ reached.2 ++ [key], other ∈ active := by
    intro other isOther
    obtain isOther | isKey := List.mem_append.mp isOther
    · exact areActive other isOther
    · rwa [List.mem_singleton.mp isKey]
  dsimp only [Pool.updateVehicle]
  split
  · rename_i isExited
    rw [← List.append_assoc]
    exact ⟨valid.gone_more isExited, sameActive, sameExited, areStillActive⟩
  · have attempted : (reached.1.attemptLaneChange network (input.setup key) key).world.Valid
        network isBefore made detached resting (exited ++ reached.2) :=
      valid_attemptLaneChange valid isMade notResting
    have updated : ((reached.1.attemptLaneChange network (input.setup key)
        key).world.updateState network key
          (input.acceleration (reached.1.attemptLaneChange network (input.setup key) key).world
            key) input.dt).Valid network isBefore made detached resting (exited ++ reached.2) :=
      (attempted.updated isMade).rest_less fun other isResting =>
        ⟨isResting, fun isKey => notResting (isKey ▸ isResting)⟩
    have sameLists (setup : Setup K) :
        (reached.1.attemptLaneChange network setup key).activeVehicles = active ∧
          (reached.1.attemptLaneChange network setup key).exitedVehicles = exited := by
      unfold Pool.attemptLaneChange
      split
      all_goals exact ⟨sameActive, sameExited⟩
    refine ⟨?_, (sameLists _).1, (sameLists _).2, ?_⟩
    · dsimp only
      split
      · rename_i isExited
        rw [← List.append_assoc]
        exact updated.gone_more isExited
      · exact updated
    · dsimp only
      split
      · exact areStillActive
      · exact areActive

omit [DecidableEq L] in
/-- Moving a vehicle loses and duplicates none. -/
theorem perm_moveToExited {pool : Pool Key L K}
    (isSplit : (pool.activeVehicles ++ pool.exitedVehicles).Perm handed) (nodup : handed.Nodup)
    (isHanded : key ∈ handed) : ((pool.moveToExited key).activeVehicles ++
      (pool.moveToExited key).exitedVehicles).Perm handed := by
  have nodupLists := isSplit.nodup_iff.mpr nodup
  by_cases isActive : key ∈ pool.activeVehicles
  · have notExited : key ∉ pool.exitedVehicles := fun isExited =>
      (List.nodup_append.mp nodupLists).2.2 key isActive key isExited rfl
    have isMoved : (pool.activeVehicles.erase key ++ (pool.exitedVehicles ++ [key])).Perm
        (pool.activeVehicles ++ pool.exitedVehicles) := by
      rw [← List.append_assoc]
      refine List.perm_append_comm.trans ?_
      exact (List.perm_cons_erase isActive).symm.append_right pool.exitedVehicles
    simpa [Pool.moveToExited, isActive, notExited] using isMoved.trans isSplit
  · have isExited : key ∈ pool.exitedVehicles :=
      (List.mem_append.mp (isSplit.mem_iff.mpr isHanded)).resolve_left isActive
    simpa [Pool.moveToExited, isActive, isExited] using isSplit

variable (network) in
theorem valid_updateLoop {pool : Pool Key L K} (input : TickInput Key L K)
    (areMade : ∀ key ∈ pool.activeVehicles, key ∈ made)
    (valid : pool.world.Valid network isBefore made detached resting pool.exitedVehicles)
    (notResting : ∀ key ∈ pool.activeVehicles, key ∉ resting) :
    let reached := pool.activeVehicles.foldl (Pool.updateVehicle network input) (pool, [])
    reached.1.world.Valid network isBefore made detached resting (pool.exitedVehicles ++ reached.2) ∧
      reached.1.activeVehicles = pool.activeVehicles ∧
      reached.1.exitedVehicles = pool.exitedVehicles ∧
      ∀ key ∈ reached.2, key ∈ pool.activeVehicles := by
  refine Folds.foldl_keeps (fun reached : Pool Key L K × List Key =>
      reached.1.world.Valid network isBefore made detached resting (pool.exitedVehicles ++ reached.2) ∧
        reached.1.activeVehicles = pool.activeVehicles ∧
        reached.1.exitedVehicles = pool.exitedVehicles ∧
        ∀ key ∈ reached.2, key ∈ pool.activeVehicles)
    (fun key isActive reached holds =>
      valid_updateVehicle (areMade key isActive) isActive (notResting key isActive) holds)
    ⟨?_, rfl, rfl, nofun⟩
  simpa using valid

omit [DecidableEq L] in
/-- Moving the exited vehicles changes nothing of the world. -/
theorem foldl_moveToExited {pool : Pool Key L K} {keys : List Key}
    (isSplit : (pool.activeVehicles ++ pool.exitedVehicles).Perm handed) (nodup : handed.Nodup)
    (areHanded : ∀ key ∈ keys, key ∈ handed) :
    let moved := keys.foldl Pool.moveToExited pool
    moved.world = pool.world ∧ (moved.activeVehicles ++ moved.exitedVehicles).Perm handed ∧
      ∀ key ∈ moved.exitedVehicles, key ∈ pool.exitedVehicles ++ keys := by
  refine Folds.foldl_keeps (fun moved : Pool Key L K => moved.world = pool.world ∧
      (moved.activeVehicles ++ moved.exitedVehicles).Perm handed ∧
      ∀ key ∈ moved.exitedVehicles, key ∈ pool.exitedVehicles ++ keys)
    (fun key isMem moved holds => ?_)
    ⟨rfl, isSplit, fun key isMem => List.mem_append_left keys isMem⟩
  refine ⟨holds.1, perm_moveToExited holds.2.1 nodup (areHanded key isMem), ?_⟩
  intro other isExited
  dsimp only [Pool.moveToExited] at isExited
  split at isExited
  · exact holds.2.2 other isExited
  · obtain isExited | isKey := List.mem_append.mp isExited
    · exact holds.2.2 other isExited
    · rw [List.mem_singleton.mp isKey]
      exact List.mem_append_right pool.exitedVehicles isMem

variable (network) in
theorem valid_update {pool : Pool Key L K} (input : TickInput Key L K)
    (areMade : ∀ key ∈ pool.activeVehicles, key ∈ made)
    (valid : pool.world.Valid network isBefore made detached resting pool.exitedVehicles)
    (isSplit : (pool.activeVehicles ++ pool.exitedVehicles).Perm handed) (nodup : handed.Nodup) :
    (pool.update network input).world.Valid network isBefore made detached
        (resting \ {key | key ∈ pool.activeVehicles}) (pool.update network input).exitedVehicles ∧
      ((pool.update network input).activeVehicles ++
        (pool.update network input).exitedVehicles).Perm handed := by
  have atRest : pool.world.Valid network isBefore made detached (resting \ {key | key ∈ pool.activeVehicles})
      pool.exitedVehicles :=
    valid.rest_less fun _ isResting => isResting.1
  obtain ⟨reachedValid, sameActive, sameExited, areActive⟩ :=
    valid_updateLoop network input areMade atRest fun key isActive isResting => isResting.2 isActive
  have reachedSplit : ((pool.activeVehicles.foldl (Pool.updateVehicle network input)
          (pool, [])).1.activeVehicles ++
        (pool.activeVehicles.foldl (Pool.updateVehicle network input)
          (pool, [])).1.exitedVehicles).Perm handed := by
    rw [sameActive, sameExited]
    exact isSplit
  obtain ⟨sameWorld, movedSplit, areExited⟩ := foldl_moveToExited reachedSplit nodup
    fun key isMem => isSplit.mem_iff.mp (List.mem_append_left _ (areActive key isMem))
  dsimp only [Pool.update]
  refine ⟨World.Valid.stopped ?_ _, movedSplit⟩
  rw [sameWorld]
  rw [sameExited] at areExited
  exact reachedValid.gone_less areExited

end

/-! ### Every call -/

variable (network) in
/-- A vehicle is made on its lane, and an obstacle is put at the end of a lane: what the
spawners and the controllers do. -/
def Event.OnLane : Event Key L K → Prop
  | .spawn _ made => made.startPosition ≤ (network.lane made.firstLane).length
  | .control obstacles => ∀ lane obstacle, obstacles lane = some obstacle →
      (network.lane lane).length ≤ obstacle.position
  | _ => True

/-- What holds of a run after every call. -/
structure Run.Valid (run : Run Key L K) (network : Network L K) (isBefore : Prop) : Prop where
  world : run.world.Valid network isBefore run.made run.detached run.resting run.exitedVehicles
  split : (run.activeVehicles ++ run.exitedVehicles).Perm run.handed
  nodup : run.handed.Nodup
  areMade : ∀ key ∈ run.handed, key ∈ run.made
  restingMade : ∀ key ∈ run.resting, key ∈ run.made

omit [DecidableEq L] in
theorem Run.Valid.activeMade {run : Run Key L K} (valid : run.Valid network isBefore)
    (isActive : key ∈ run.activeVehicles) : key ∈ run.made :=
  valid.areMade key (valid.split.mem_iff.mp (List.mem_append_left run.exitedVehicles isActive))

theorem sound_make {made : NewVehicle L K} (isNone : ∀ lane, world.counts key lane = 0)
    (onLane : isBefore → made.startPosition ≤ (network.lane made.firstLane).length) :
    ((world.setVehicle key made.make).addVehicle made.firstLane key).Sound network isPresent isBefore key := by
  have notExited : made.make.state ≠ .exited := by
    dsimp only [NewVehicle.make]
    split
    all_goals simp
  unfold Sound
  rw [vehicles_addVehicle, vehicles_setVehicle_self, counts_addVehicle, counts_setVehicle,
    funext isNone]
  refine ⟨fun _ => ⟨made.firstLane, rfl⟩, fun lane isOn => ?_,
    fun isExited => absurd isExited notExited, fun lane => ?_, fun lane isCounted => ?_,
    fun _ lane occupies => ?_, fun _ _ isNone => ?_, fun isBefore _ lane isOn => ?_⟩
  · rw [← Option.some.inj isOn]
    exact List.mem_cons_self
  · by_cases isFirst : lane = made.firstLane
    · simp [isFirst]
    · simp [isFirst]
  · have isFirst : lane = made.firstLane := by
      by_contra isOther
      simp [isOther] at isCounted
    exact Or.inl (congrArg some isFirst.symm)
  · have isFirst : made.firstLane = lane := by
      simpa [NewVehicle.make] using occupies
    simp [isFirst]
  · cases isNone
  · rw [← Option.some.inj isOn]
    exact onLane isBefore

section

variable {run : Run Key L K}

theorem valid_spawn {made : NewVehicle L K} (valid : run.Valid network isBefore)
    (onLane : isBefore → made.startPosition ≤ (network.lane made.firstLane).length)
    (isNew : key ∉ run.made) : (run.step network (.spawn key made)).Valid network isBefore := by
  have frames : run.world.Frames
      ((run.world.setVehicle key made.make).addVehicle made.firstLane key) key :=
    World.Frames.trans (.setVehicle _) (.addVehicle _)
  have notHanded : key ∉ run.handed := fun isHanded => isNew (valid.areMade key isHanded)
  have notActive : key ∉ run.activeVehicles := fun isActive => isNew (valid.activeMade isActive)
  have ne_of_made {other : Key} (isMade : other ∈ run.made) : other ≠ key := by
    rintro rfl
    exact isNew isMade
  simp only [Run.step, isNew, if_false, Pool.addVehicle, notActive]
  refine ⟨⟨fun other isMade => ?_, fun other notMade lane => ?_, fun other isResting lane => ?_,
    fun other isGone => ?_, valid.world.atEnd⟩, ?_, ?_, fun other isHanded => ?_, fun other isResting => ?_⟩
  · obtain isMade | isKey := List.mem_append.mp isMade
    · have same := valid.world.sound other isMade
      unfold Sound at same ⊢
      rwa [frames.vehicles other (ne_of_made isMade), frames.counts other (ne_of_made isMade)]
    · rw [List.mem_singleton.mp isKey]
      exact sound_make (valid.world.unmade key isNew) onLane
  · rw [List.mem_append, not_or, List.mem_singleton] at notMade
    rw [frames.counts other notMade.2]
    exact valid.world.unmade other notMade.1 lane
  · rw [frames.counts other (ne_of_made (valid.restingMade other isResting))]
    exact valid.world.resting other isResting lane
  · have isMade : other ∈ run.made := valid.areMade other
      (valid.split.mem_iff.mp (List.mem_append_right run.activeVehicles isGone))
    rw [frames.vehicles other (ne_of_made isMade)]
    exact valid.world.gone other isGone
  · rw [List.append_assoc]
    refine (List.perm_append_comm.append_left run.activeVehicles).trans ?_
    rw [← List.append_assoc]
    exact valid.split.append_right [key]
  · exact List.Nodup.append valid.nodup (List.nodup_singleton key) (by simpa using notHanded)
  · obtain isHanded | isKey := List.mem_append.mp isHanded
    · exact List.mem_append_left [key] (valid.areMade other isHanded)
    · exact List.mem_append_right run.made isKey
  · exact List.mem_append_left [key] (valid.restingMade other isResting)

theorem valid_reset (valid : run.Valid network isBefore) :
    (run.step network .reset).Valid network isBefore := by
  have reset := valid.world.detached_all fun other isActive => valid.activeMade isActive
  refine ⟨⟨reset.sound, reset.unmade, reset.resting, nofun, reset.atEnd⟩, .nil, List.nodup_nil, nofun, fun other isResting => ?_⟩
  obtain isResting | isActive := isResting
  · exact valid.restingMade other isResting
  · exact valid.activeMade isActive

/-- Every call keeps what holds of a run. -/
theorem valid_step (event : Event Key L K) (onLane : isBefore → event.OnLane network)
    (valid : run.Valid network isBefore) : (run.step network event).Valid network isBefore := by
  cases event with
  | spawn key made =>
    by_cases isMade : key ∈ run.made
    · simpa [Run.step, isMade] using valid
    · exact valid_spawn valid onLane isMade
  | attempt key setup lastChangeTime =>
    by_cases isMade : key ∈ run.made
    · simp only [Run.step, isMade, if_true]
      exact ⟨valid.world.attempted isMade (attempted setup lastChangeTime), valid.split,
        valid.nodup, valid.areMade, fun other isResting => valid.restingMade other isResting.1⟩
    · simpa [Run.step, isMade] using valid
  | update key =>
    by_cases isMade : key ∈ run.made
    · simp only [Run.step, isMade, if_true]
      exact ⟨valid.world.updated isMade, valid.split, valid.nodup, valid.areMade,
        fun other isResting => valid.restingMade other isResting.1⟩
    · simpa [Run.step, isMade] using valid
  | detach key =>
    by_cases isMade : key ∈ run.made
    · simp only [Run.step, isMade, if_true]
      refine ⟨valid.world.detached_one isMade, valid.split, valid.nodup, valid.areMade,
        fun other isResting => ?_⟩
      obtain rfl | isResting := isResting
      · exact isMade
      · exact valid.restingMade other isResting
    · simpa [Run.step, isMade] using valid
  | tick input =>
    obtain ⟨world, split⟩ := valid_update network input
      (fun _ isActive => valid.activeMade isActive) valid.world valid.split valid.nodup
    exact ⟨world, split, valid.nodup, valid.areMade, fun other isResting =>
      valid.restingMade other isResting.1⟩
  | reset => exact valid_reset valid
  | control => exact ⟨⟨valid.world.sound, valid.world.unmade, valid.world.resting,
      valid.world.gone, onLane⟩, valid.split, valid.nodup, valid.areMade, valid.restingMade⟩

end

variable (network) in
theorem valid_runOf (vehicles : Key → Vehicle L K) (events : List (Event Key L K))
    (onLane : isBefore → ∀ event ∈ events, event.OnLane network) :
    (runOf network vehicles events).Valid network isBefore := by
  refine Folds.foldl_keeps (fun run : Run Key L K => run.Valid network isBefore)
    (fun event isEvent _ valid => valid_step event (fun isBefore =>
      onLane isBefore event isEvent) valid)
    ⟨⟨fun _ isMade => ?_, fun _ _ _ => rfl, fun _ isResting => ?_, fun _ isGone => ?_,
      fun _ _ _ isHeld => ?_⟩, .nil, List.nodup_nil, fun _ isHanded => ?_,
      fun _ isResting => ?_⟩
  · exact absurd isMade List.not_mem_nil
  · exact absurd isResting (Set.notMem_empty _)
  · exact absurd isGone List.not_mem_nil
  · cases isHeld
  · exact absurd isHanded List.not_mem_nil
  · exact absurd isResting (Set.notMem_empty _)

/-- After every sequence of calls: a vehicle that has not exited and was never detached has
a lane of its route, and is registered exactly once on it, exactly once on the lane that it
is leaving, and on no other; an exited vehicle is registered on no lane, nor is one that was
detached and neither attempted nor updated since; and the vehicles handed to the pool are
split between the active and the exited ones. -/
theorem runOf_registered (vehicles : Key → Vehicle L K) (events : List (Event Key L K)) :
    let run := runOf network vehicles events
    (∀ key ∈ run.made, key ∉ run.detached → (run.world.vehicles key).state ≠ .exited →
      ∃ lane, (run.world.vehicles key).lane = some lane ∧ lane ∈ (run.world.vehicles key).route ∧
        ∀ l, run.world.counts key l = if l = lane ∨
              (run.world.vehicles key).laneChange.map Maneuver.originLane = some l then 1
          else 0) ∧
      (∀ key ∈ run.made, (run.world.vehicles key).state = .exited →
        ∀ lane, run.world.counts key lane = 0) ∧
      (∀ key ∈ run.resting, ∀ lane, run.world.counts key lane = 0) ∧
      (run.activeVehicles ++ run.exitedVehicles).Perm run.handed ∧ run.handed.Nodup ∧
      ∀ key ∈ run.exitedVehicles, (run.world.vehicles key).state = .exited := by
  intro run
  have valid : run.Valid network False := valid_runOf network vehicles events False.elim
  refine ⟨fun key isMade notDetached notExited => ?_, fun key isMade isExited lane => ?_,
    valid.world.resting, valid.split, valid.nodup, valid.world.gone⟩
  · have sound := valid.world.sound key isMade
    obtain ⟨lane, isLane⟩ := sound.hasLane notExited
    refine ⟨lane, isLane, sound.onRoute lane isLane, fun l => ?_⟩
    have occupies_iff : (run.world.vehicles key).Occupies l ↔ l = lane ∨
        (run.world.vehicles key).laneChange.map Maneuver.originLane = some l := by
      rw [Vehicle.Occupies, isLane, Option.some.injEq, eq_comm]
    split
    · rename_i occupies
      have isCounted := sound.every notDetached l (occupies_iff.mpr occupies)
      have := sound.once l
      omega
    · rename_i notOccupied
      by_contra isCounted
      exact notOccupied (occupies_iff.mp (sound.only l isCounted))
  · have sound := valid.world.sound key isMade
    by_contra isCounted
    have occupies := sound.only lane isCounted
    rw [Vehicle.Occupies, (sound.gone isExited).1, (sound.gone isExited).2] at occupies
    simp at occupies

end

/-- A car that is detached and then drives on to the next lane of its route is registered
on it. -/
theorem detached_drivesOn : let made : NewVehicle ℕ ℚ :=
      ⟨9 / 2, by norm_num, 13, none, 1 / 2, 0, [10, 20], 180, 10, by norm_num, none⟩
    let run := runOf (northernApproach 1) (fun _ => made.make)
      [.spawn 0 made, .detach 0, .update 0 0 2]
    0 ∈ run.detached ∧ run.world.counts 0 10 = 1 := by
  refine ⟨?_, by decide +kernel⟩
  simp [runOf, Run.step, Run.start, Pool.addVehicle]

end UrbanFlow.LaneChange
