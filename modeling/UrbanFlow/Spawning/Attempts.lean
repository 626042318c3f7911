import UrbanFlow.Spawning.Desk

/-!
# What an attempt to spawn does

The draws of the spawner change nothing but their count. An attempt to place the
pending arrival draws its turn and class where it has none, keeps them while it is
blocked, and makes a vehicle of that turn and class when it is not.
-/

namespace UrbanFlow.Spawning

open Effect

/-- An effect that only draws, and what is known of the value it returns. -/
def Draws {Value : Type} (effect : Effect Spawner Value) (fits : Value → Prop) : Prop :=
  ∀ start, Ensures (fun state => state = start) effect
    (fun value later => fits value ∧ ∃ drawn, later = { start with drawn := drawn })
    (fun _ => True)

namespace Draws

variable {Value Other : Type} {fits : Value → Prop}

theorem give {value : Value} (isFit : fits value) : Draws (pure value) fits :=
  fun start => Ensures.returned ⟨isFit, start.drawn, rfl⟩

theorem raise {exc : String} : Draws (Effect.raise exc) fits :=
  fun _ => Ensures.raise fun _ _ => trivial

theorem bind {between : Other → Prop} {first : Effect Spawner Other}
    {next : Other → Effect Spawner Value} (ofFirst : Draws first between)
    (ofNext : ∀ value, between value → Draws (next value) fits) : Draws (first >>= next) fits := by
  intro start
  apply Ensures.bind (ofFirst start)
  intro value
  apply Ensures.of_each
  rintro _ ⟨isBetween, _, rfl⟩
  exact ofNext value isBetween _

theorem reading {next : Spawner → Effect Spawner Value}
    (ofNext : ∀ seen, Draws (next seen) fits) : Draws (Effect.read >>= next) fits :=
  fun start => Ensures.reading (ofNext start start)

end Draws

namespace Demand

variable (demand : Demand) (direction : Direction)

theorem random_draws : Draws demand.random fun _ => True := by
  rintro start _ rfl
  exact ⟨trivial, _, rfl⟩

theorem uniform_draws (range : Range) : Draws (demand.uniform range) fun _ => True :=
  Draws.bind demand.random_draws fun _ _ => Draws.give trivial

theorem choices_draws {Value : Type} (population : List Value) (weights : List ℚ) :
    Draws (demand.choices population weights) (· ∈ population) := by
  dsimp only [choices]
  split
  · exact Draws.raise
  · split
    · exact Draws.raise
    · apply Draws.bind demand.random_draws
      intro draw _
      split
      · exact Draws.raise
      · next isValue => exact Draws.give (List.mem_of_getElem? isValue)

theorem drawTurn_draws : Draws (demand.drawTurn direction) fun _ => True := by
  apply Draws.reading
  intro seen start
  dsimp only
  split
  all_goals
    apply Ensures.mono (demand.choices_draws _ _ start) (fun _ => id)
    · exact fun _ _ drawn => ⟨trivial, drawn.2⟩
    · exact fun _ => id

theorem drawType_draws : Draws (demand.drawType direction) (demand.HasClass direction) := by
  unfold drawType HasClass
  cases demand.populationOf direction with
  | none => exact Draws.give rfl
  | some =>
    apply Draws.bind (demand.choices_draws _ _)
    exact fun typeId member => Draws.give ⟨typeId, member, rfl⟩

theorem generateNextArrivalTime_draws :
    Draws (demand.generateNextArrivalTime direction) fun _ => True := by
  apply Draws.reading
  intro seen
  dsimp only
  generalize demand.arrivalRate * _ * _ = directionRate
  split
  · exact Draws.give trivial
  · split
    · exact Draws.bind demand.random_draws fun _ _ => Draws.give trivial
    · split
      · exact Draws.give trivial
      · split <;> exact Draws.raise

theorem resolveSplit_draws : Draws demand.resolveSplit fun _ => True := by
  unfold resolveSplit
  split
  · exact Draws.give trivial
  · apply Draws.bind (demand.uniform_draws _)
    intro _ _
    apply Draws.bind (demand.uniform_draws _)
    intro _ _
    apply Draws.bind (demand.uniform_draws _)
    intro _ _
    apply Draws.bind (demand.uniform_draws _)
    exact fun _ _ => Draws.give trivial

theorem resolveTurnProbabilities_draws : Draws demand.resolveTurnProbabilities fun _ => True := by
  unfold resolveTurnProbabilities
  split
  · exact Draws.give trivial
  · apply Draws.bind (demand.uniform_draws _)
    intro _ _
    apply Draws.bind (demand.uniform_draws _)
    exact fun _ _ => Draws.give trivial

theorem takeArrival_ensures (due : ℚ) (start : Spawner) :
    Ensures (fun state => state = start) (demand.takeArrival direction due)
      (fun _ later => later = countRejected direction start ∨
        ∃ arrival drawn, arrival.arrivalTime = due ∧ demand.HasClass direction arrival.typeId ∧
          later = joinBacklog direction arrival { start with drawn := drawn })
      (fun _ => True) := by
  apply Ensures.reading
  apply iteInduction (motive := fun effect => Ensures _ effect _ _)
  · rintro - _ rfl
    exact .inl rfl
  · intro _
    apply Ensures.bind (demand.drawTurn_draws direction start)
    intro turn
    apply Ensures.of_each
    rintro _ ⟨-, _, rfl⟩
    apply Ensures.bind (demand.drawType_draws direction _)
    intro typeId
    apply Ensures.modify
    rintro _ ⟨hasClass, drawn, rfl⟩
    exact .inr ⟨⟨due, turn, typeId⟩, drawn, rfl, hasClass, rfl⟩

/-- A pending turn has a pending class beside it, where the approach has a population. -/
def Ready (pendingTurn : Option TurnIntent) (pendingType : Option String) : Prop :=
  pendingTurn.isSome → (demand.populationOf direction).isSome → pendingType.isSome

/-- Nothing has changed but draws and the pending arrival of one approach. -/
def Touched (start later : Spawner) : Prop :=
  later = { start with
    drawn := later.drawn
    driverDrawn := later.driverDrawn
    pendingTurn := Function.update start.pendingTurn direction (later.pendingTurn direction)
    pendingType := Function.update start.pendingType direction (later.pendingType direction) }

/-- What became of the pending arrival: `turn` and `typeId` are what it had or has
drawn now. -/
structure Tried (start : Spawner) (placed : Option PlacedVehicle) (later : Spawner)
    (turn : TurnIntent) (typeId : Option String) : Prop where
  turn_eq : ∀ known ∈ start.pendingTurn direction, known = turn ∧
    Desk.classOf demand direction (start.pendingType direction) = typeId
  blocked : placed = none → later.pendingTurn direction = some turn ∧
    Desk.classOf demand direction (later.pendingType direction) = typeId
  entered : ∀ vehicle ∈ placed, later.pendingTurn direction = none ∧
    vehicle.turnIntent = turn ∧ vehicle.typeId = typeId ∧
    vehicle.spawnTime = start.elapsedTime

variable {demand direction}

theorem Touched.exists {start later : Spawner} (touched : Touched direction start later) :
    ∃ drawn driverDrawn turn typeId, later = { start with
      drawn := drawn
      driverDrawn := driverDrawn
      pendingTurn := Function.update start.pendingTurn direction turn
      pendingType := Function.update start.pendingType direction typeId } :=
  ⟨_, _, _, _, touched⟩

theorem resolveTurn_ensures (start : Spawner) :
    Ensures (fun state => state = start) (demand.resolveTurn direction)
      (fun turn later => (∀ known ∈ start.pendingTurn direction, known = turn) ∧
        ∃ drawn, later = { start with
          drawn := drawn
          pendingTurn := Function.update start.pendingTurn direction (some turn) })
      (fun _ => True) := by
  apply Ensures.reading
  cases isPending : start.pendingTurn direction with
  | some =>
    apply Ensures.returned
    refine ⟨by simp, start.drawn, ?_⟩
    rw [← isPending, Function.update_eq_self]
  | none =>
    apply Ensures.bind (demand.drawTurn_draws direction start)
    intro turn
    apply Ensures.of_each
    rintro _ ⟨-, drawn, rfl⟩
    apply Ensures.changing
    exact Ensures.returned ⟨by simp, drawn, rfl⟩

theorem resolveParams_ensures (start : Spawner) :
    Ensures (fun state => state = start) (demand.resolveParams direction)
      (fun params later => ∃ drawn pending,
        ((start.pendingType direction).isSome → pending = start.pendingType direction) ∧
        ((demand.populationOf direction).isSome → pending.isSome) ∧
        params.map VehicleParams.typeId = Desk.classOf demand direction pending ∧
        later = { start with
          drawn := drawn
          pendingType := Function.update start.pendingType direction pending })
      (fun _ => True) := by
  unfold resolveParams Desk.classOf
  cases isPopulation : demand.populationOf direction with
  | none =>
    apply Ensures.returned
    refine ⟨start.drawn, start.pendingType direction, fun _ => rfl, by simp, by simp, ?_⟩
    rw [Function.update_eq_self]
  | some =>
    dsimp only
    refine Ensures.bind (?_ : Ensures _ _ (fun typeId later =>
      ((start.pendingType direction).isSome → start.pendingType direction = some typeId) ∧
      ∃ drawn, later = { start with
        drawn := drawn
        pendingType := Function.update start.pendingType direction (some typeId) })
      _) ?_
    · apply Ensures.reading
      cases isPending : start.pendingType direction with
      | some =>
        apply Ensures.returned
        refine ⟨fun _ => rfl, start.drawn, ?_⟩
        rw [← isPending, Function.update_eq_self]
      | none =>
        apply Ensures.bind (demand.choices_draws _ _ start)
        intro typeId
        apply Ensures.of_each
        rintro _ ⟨-, drawn, rfl⟩
        apply Ensures.changing
        exact Ensures.returned ⟨by simp, drawn, rfl⟩
    · intro typeId
      apply Ensures.of_each
      rintro _ ⟨known, drawn, rfl⟩
      split
      · exact Ensures.raise fun _ _ => trivial
      · next params isParams =>
          have isType := List.find?_some isParams
          apply Ensures.returned
          refine ⟨drawn, some typeId, fun pending => (known pending).symm, by simp, ?_, rfl⟩
          simpa using isType

theorem makeVehicle_ensures (turn : TurnIntent) (params : Option VehicleParams) (index : Nat)
    (preceding : Option LaneVehicle) (minimumGap : ℚ) (start : Spawner) :
    Ensures (fun state => state = start) (demand.makeVehicle turn params index preceding minimumGap)
      (fun vehicle later => vehicle.turnIntent = turn ∧
        vehicle.typeId = params.map VehicleParams.typeId ∧
        vehicle.spawnTime = start.elapsedTime ∧
        ∃ drawn driverDrawn, later = { start with drawn := drawn, driverDrawn := driverDrawn })
      (fun _ => True) := by
  rintro _ rfl
  unfold makeVehicle nextDriverFactors
  cases demand.driverModel with
  | none | some model => exact ⟨rfl, rfl, rfl, _, _, rfl⟩

theorem attemptSpawn_ensures {start : Spawner} (lanes : List EntryLane)
    (ready : Ready demand direction (start.pendingTurn direction) (start.pendingType direction)) :
    Ensures (fun state => state = start) (demand.attemptSpawn direction lanes)
      (fun placed later => Touched direction start later ∧
        Ready demand direction (later.pendingTurn direction) (later.pendingType direction) ∧
        (lanes = [] ∧ placed = none ∧ later = start ∨ lanes ≠ [] ∧
            ∃ turn typeId, Tried demand direction start placed later turn typeId))
      (fun _ => True) := by
  unfold attemptSpawn
  split
  · next isEmpty =>
      apply Ensures.returned
      refine ⟨?_, ready, .inl ⟨List.isEmpty_iff.mp isEmpty, rfl, rfl⟩⟩
      simp [Touched]
  · next isSome =>
    have hasLanes : lanes ≠ [] := fun isNil => isSome (List.isEmpty_iff.mpr isNil)
    apply Ensures.bind (resolveTurn_ensures start)
    intro turn
    apply Ensures.of_each
    rintro _ ⟨isTurn, _, rfl⟩
    apply Ensures.bind (resolveParams_ensures _)
    intro params
    apply Ensures.of_each
    rintro _ ⟨_, pending, isType, isReady, isParams, rfl⟩
    have known : ∀ known ∈ start.pendingTurn direction, known = turn ∧
        Desk.classOf demand direction (start.pendingType direction) =
          params.map VehicleParams.typeId := by
      intro known isKnown
      refine ⟨isTurn known isKnown, ?_⟩
      rw [isParams]
      unfold Desk.classOf
      by_cases isSome : (demand.populationOf direction).isSome
      · have isPending := ready (Option.isSome_iff_exists.mpr ⟨known, isKnown⟩) isSome
        rw [isType isPending]
      · rw [if_neg isSome, if_neg isSome]
    dsimp only
    split
    · apply Ensures.returned
      refine ⟨by simp [Touched], ?_, .inr ⟨hasLanes, turn, _, known, ?_, ?_⟩⟩
      · simpa [Ready] using isReady
      · simpa using isParams.symm
      · exact fun _ isNone => absurd isNone (Option.not_mem_none _)
    · apply Ensures.changing
      apply Ensures.bind (makeVehicle_ensures turn params _ _ _ _)
      intro vehicle
      apply Ensures.of_each
      rintro _ ⟨hasTurn, hasType, isSpawned, _, _, rfl⟩
      apply Ensures.returned
      refine ⟨?_, ?_, .inr ⟨hasLanes, turn, _, known, ?_, ?_⟩⟩
      · simp [Touched, forgetPending]
      · simp [Ready, forgetPending]
      · exact fun isNone => absurd isNone (Option.some_ne_none _)
      · intro made isMade
        cases Option.mem_some_iff.mp isMade
        exact ⟨Function.update_self .., hasTurn, hasType, isSpawned⟩

end Demand
end UrbanFlow.Spawning
