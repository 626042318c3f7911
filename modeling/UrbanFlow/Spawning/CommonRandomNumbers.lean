import UrbanFlow.Library.Coupling
import UrbanFlow.Spawning.Spawner

/-!
# Two spawners of one demand

Two runs of one demand that differ in their entry lanes. A vehicle that is placed
takes three draws from the stream that the coming arrivals are drawn from too, so
the runs generate the same arrivals for as long as they have placed the same
number of vehicles whenever an arrival falls due.
-/

namespace UrbanFlow.Spawning
namespace Demand

open Effect

variable (demand : Demand)

/-- A class that arrivals of an approach can have. -/
def HasClass (direction : Direction) (typeId : Option String) : Prop :=
  match demand.populationOf direction with
  | none => typeId = none
  | some population => ∃ known ∈ population.typeIds, typeId = some known

/-- Every waiting arrival has a class of its approach. -/
def Classed (spawner : Spawner) : Prop :=
  ∀ direction, ∀ arrival ∈ spawner.backlog direction, demand.HasClass direction arrival.typeId

/-- The arrivals of two spawners agree so far, and their streams are apart by the
draws of the vehicles that one has placed and the other has not. -/
structure InStep (spawner other : Spawner) : Prop where
  source : spawner.toSource = other.toSource
  apart : spawner.drawn + 3 * other.spawnedCount = other.drawn + 3 * spawner.spawnedCount
  classed : demand.Classed spawner
  classed' : demand.Classed other

/-- Two spawners in step that have placed equally many vehicles. -/
structure AtOne (spawner other : Spawner) : Prop
    extends demand.InStep spawner other where
  spawned : spawner.spawnedCount = other.spawnedCount

variable {demand}

theorem Classed.joinBacklog {spawner : Spawner} {direction : Direction} {arrival : QueuedArrival}
    (classed : demand.Classed spawner) (hasClass : demand.HasClass direction arrival.typeId) :
    demand.Classed (Demand.joinBacklog direction arrival spawner) := by
  intro approach waiting member
  unfold Demand.joinBacklog at member
  rcases eq_or_ne approach direction with rfl | isOther
  · simp only [Function.update_self, List.mem_append, List.mem_singleton] at member
    rcases member with before | rfl
    · exact classed approach waiting before
    · exact hasClass
  · simp only [Function.update_of_ne isOther] at member
    exact classed approach waiting member

namespace AtOne

variable {spawner other : Spawner}

/-- Then their streams are at one place. -/
theorem drawn (agree : demand.AtOne spawner other) : spawner.drawn = other.drawn := by
  have apart := agree.apart
  have spawned := agree.spawned
  omega

/-- A change of what decides the coming arrivals, made alike on both sides. -/
theorem change {changed changed' : Spawner} (agree : demand.AtOne spawner other)
    (source : changed.toSource = changed'.toSource) (drawn : changed.drawn = changed'.drawn)
    (spawned : changed.spawnedCount = spawner.spawnedCount)
    (spawned' : changed'.spawnedCount = other.spawnedCount)
    (backlog : changed.backlog = spawner.backlog) (backlog' : changed'.backlog = other.backlog) :
    demand.AtOne changed changed' where
  source := source
  apart := by
    have equal := agree.spawned
    omega
  classed := by
    unfold Classed
    rw [backlog]
    exact agree.classed
  classed' := by
    unfold Classed
    rw [backlog']
    exact agree.classed'
  spawned := by rw [spawned, spawned', agree.spawned]

end AtOne

/-- The same value drawn on both sides. -/
def Alike (demand : Demand) {Value : Type} (fits : Value → Prop) :
    Value → Value → Spawner → Spawner → Prop :=
  fun value value' spawner other => (value = value' ∧ fits value) ∧ demand.AtOne spawner other

/-- Spawners at one draw alike. -/
theorem random_couples : Couples demand.AtOne demand.random demand.random
      (Alike demand fun _ => True) demand.AtOne := by
  intro spawner other agree
  refine ⟨⟨congrArg demand.rng agree.drawn, trivial⟩, ?_⟩
  exact agree.change agree.source (congrArg (· + 1) agree.drawn) rfl rfl rfl rfl

theorem couples_alike {Value Result : Type} {fits : Value → Prop} {first : Effect Spawner Value}
    {next : Value → Effect Spawner Result} {after : Result → Result → Spawner → Spawner → Prop}
    (ofFirst : Couples demand.AtOne first first (Alike demand fits) demand.AtOne)
    (ofNext : ∀ value, fits value →
      Couples demand.AtOne (next value) (next value) after demand.AtOne) :
    Couples demand.AtOne (first >>= next) (first >>= next) after demand.AtOne := by
  apply Couples.bind _ ofFirst
  rintro value value' spawner other ⟨⟨rfl, isFit⟩, agree⟩
  exact ofNext value isFit spawner other agree

theorem choices_couples {Value : Type} (population : List Value) (weights : List ℚ) :
    Couples demand.AtOne
      (demand.choices population weights) (demand.choices population weights)
      (Alike demand (· ∈ population)) demand.AtOne := by
  dsimp only [choices]
  split
  · exact Couples.raise fun _ _ agree => agree
  · split
    · exact Couples.raise fun _ _ agree => agree
    · apply couples_alike random_couples
      intro draw _
      split
      · exact Couples.raise fun _ _ agree => agree
      · next value isValue =>
          apply Couples.give
          intro _ _ agree
          exact ⟨⟨rfl, List.mem_of_getElem? isValue⟩, agree⟩

theorem drawTurn_couples (direction : Direction) : Couples demand.AtOne
      (demand.drawTurn direction) (demand.drawTurn direction)
      (Alike demand fun _ => True) demand.AtOne := by
  unfold drawTurn
  apply Couples.reading
  intro spawner other agree
  rw [agree.source]
  apply Couples.known _ agree
  dsimp only
  split
  all_goals
    apply Couples.mono (choices_couples _ _)
    · exact fun _ _ _ _ alike => ⟨⟨alike.1.1, trivial⟩, alike.2⟩
    · exact fun _ _ agree => agree

theorem drawType_couples (direction : Direction) : Couples demand.AtOne
      (demand.drawType direction) (demand.drawType direction)
      (Alike demand (demand.HasClass direction)) demand.AtOne := by
  unfold drawType
  cases isPopulation : demand.populationOf direction with
  | none =>
    apply Couples.give
    intro _ _ agree
    refine ⟨⟨rfl, ?_⟩, agree⟩
    unfold HasClass
    rw [isPopulation]
  | some =>
    apply couples_alike (choices_couples _ _)
    intro typeId member
    apply Couples.give
    intro _ _ agree
    refine ⟨⟨rfl, ?_⟩, agree⟩
    unfold HasClass
    rw [isPopulation]
    exact ⟨typeId, member, rfl⟩

theorem generateNextArrivalTime_couples (direction : Direction) : Couples demand.AtOne
      (demand.generateNextArrivalTime direction) (demand.generateNextArrivalTime direction)
      (Alike demand fun _ => True) demand.AtOne := by
  unfold generateNextArrivalTime
  apply Couples.reading
  intro spawner other agree
  rw [agree.source]
  apply Couples.known _ agree
  dsimp only
  generalize demand.arrivalRate * _ * _ = directionRate
  split
  · exact Couples.give fun _ _ agree => ⟨⟨rfl, trivial⟩, agree⟩
  · split
    · apply couples_alike random_couples
      intro draw _
      exact Couples.give fun _ _ agree => ⟨⟨rfl, trivial⟩, agree⟩
    · split
      · exact Couples.give fun _ _ agree => ⟨⟨rfl, trivial⟩, agree⟩
      · split <;> exact Couples.raise fun _ _ agree => agree

theorem AtOne.joinBacklog {spawner other : Spawner} {direction : Direction}
    {arrival : QueuedArrival} (agree : demand.AtOne spawner other)
    (hasClass : demand.HasClass direction arrival.typeId) :
    demand.AtOne (joinBacklog direction arrival spawner) (joinBacklog direction arrival other) where
  source := by
    simp only [Demand.joinBacklog, agree.source]
  apart := agree.apart
  classed := agree.classed.joinBacklog hasClass
  classed' := agree.classed'.joinBacklog hasClass
  spawned := agree.spawned

theorem takeArrival_couples (unlimited : demand.entryQueueCapacity = none) (direction : Direction)
    (due : ℚ) : Couples demand.AtOne
      (demand.takeArrival direction due) (demand.takeArrival direction due)
      (fun _ _ => demand.AtOne) demand.AtOne := by
  unfold takeArrival
  rw [unlimited]
  apply Couples.reading
  intro spawner other agree
  apply Couples.known _ agree
  apply couples_alike (drawTurn_couples direction)
  intro turn _
  apply couples_alike (drawType_couples direction)
  intro typeId hasClass
  apply Couples.modify
  intro spawner other agree
  exact agree.joinBacklog hasClass

theorem AtOne.setTimer {spawner other : Spawner} (agree : demand.AtOne spawner other)
    (direction : Direction) (timer : Option ℚ) :
    demand.AtOne (setTimer direction timer spawner) (setTimer direction timer other) := by
  apply agree.change
  · simp only [Demand.setTimer, agree.source]
  · exact agree.drawn
  all_goals rfl

/-- Both sides generate the same arrivals in a tick. -/
theorem generateDue_couples (unlimited : demand.entryQueueCapacity = none) (direction : Direction)
    (room : Nat) : Couples demand.AtOne
      (demand.generateDue direction room) (demand.generateDue direction room)
      (fun _ _ => demand.AtOne) demand.AtOne := by
  induction room with
  | zero => exact Couples.give fun _ _ agree => agree
  | succ _ ih =>
    unfold generateDue
    apply Couples.reading
    intro spawner other agree
    rw [agree.source]
    apply Couples.known _ agree
    split
    · exact Couples.give fun _ _ agree => agree
    · split
      · apply Couples.bind fun _ _ => demand.AtOne
        · apply Couples.modify
          intro spawner other agree
          apply agree.change
          · simp only [countArrival, agree.source]
          · exact agree.drawn
          all_goals rfl
        · intro _ _
          apply Couples.bind _ (takeArrival_couples unlimited direction _)
          intro _ _
          apply couples_alike (generateNextArrivalTime_couples direction)
          intro gap _
          apply Couples.bind fun _ _ => demand.AtOne
          · apply Couples.modify
            intro spawner other agree
            unfold addToTimer
            rw [agree.source]
            exact agree.setTimer direction _
          · exact fun _ _ => ih
      · exact Couples.give fun _ _ agree => agree

theorem uniform_couples (range : Range) :
    Couples demand.AtOne (demand.uniform range) (demand.uniform range)
      (Alike demand fun _ => True) demand.AtOne := by
  unfold uniform
  apply couples_alike random_couples
  intro draw _
  exact Couples.give fun _ _ agree => ⟨⟨rfl, trivial⟩, agree⟩

theorem resolveSplit_couples : Couples demand.AtOne demand.resolveSplit demand.resolveSplit
      (Alike demand fun _ => True) demand.AtOne := by
  unfold resolveSplit
  split
  · exact Couples.give fun _ _ agree => ⟨⟨rfl, trivial⟩, agree⟩
  · apply couples_alike (uniform_couples _)
    intro north _
    apply couples_alike (uniform_couples _)
    intro south _
    apply couples_alike (uniform_couples _)
    intro east _
    apply couples_alike (uniform_couples _)
    intro west _
    exact Couples.give fun _ _ agree => ⟨⟨rfl, trivial⟩, agree⟩

theorem resolveTurnProbabilities_couples :
    Couples demand.AtOne demand.resolveTurnProbabilities
      demand.resolveTurnProbabilities (Alike demand fun _ => True) demand.AtOne := by
  unfold resolveTurnProbabilities
  split
  · exact Couples.give fun _ _ agree => ⟨⟨rfl, trivial⟩, agree⟩
  · apply couples_alike (uniform_couples _)
    intro straight _
    apply couples_alike (uniform_couples _)
    intro share _
    exact Couples.give fun _ _ agree => ⟨⟨rfl, trivial⟩, agree⟩

theorem startTimers_couples (directions : List Direction) :
    Couples demand.AtOne (demand.startTimers directions)
      (demand.startTimers directions) (fun _ _ => demand.AtOne) demand.AtOne := by
  induction directions with
  | nil => exact Couples.give fun _ _ agree => agree
  | cons direction _ ih =>
    unfold startTimers
    apply couples_alike (generateNextArrivalTime_couples direction)
    intro timer _
    apply Couples.bind fun _ _ => demand.AtOne
    · apply Couples.modify
      intro spawner other agree
      exact agree.setTimer direction timer
    · exact fun _ _ => ih

theorem reset_couples : Couples demand.AtOne demand.reset demand.reset
      (fun _ _ => demand.AtOne) demand.AtOne := by
  unfold reset
  apply couples_alike resolveSplit_couples
  intro split _
  apply couples_alike resolveTurnProbabilities_couples
  intro probabilities _
  apply Couples.bind fun _ _ => demand.AtOne
  · apply Couples.modify
    intro spawner other agree
    apply agree.change
    · simp only [agree.source]
    · exact agree.drawn
    all_goals rfl
  · exact fun _ _ => startTimers_couples _

/-- A spawner agrees with itself before it is reset. -/
theorem AtOne.start (demand : Demand) : demand.AtOne {} {} where
  source := rfl
  apart := rfl
  classed := fun _ _ => nofun
  classed' := fun _ _ => nofun
  spawned := rfl

/-- What an attempt to place the pending arrival can do: three draws for a vehicle
that is placed, none for one that is not. -/
structure Attempted (spawner : Spawner) (placed : Option PlacedVehicle)
    (later : Spawner) : Prop where
  source : later.toSource = spawner.toSource
  backlog : later.backlog = spawner.backlog
  spawned : later.spawnedCount = spawner.spawnedCount
  drawn : later.drawn = spawner.drawn + if placed.isSome then 3 else 0

/-- A vehicle is made with three draws. -/
theorem makeVehicle_returns (turn : TurnIntent) (params : Option VehicleParams) (index : Nat)
    (preceding : Option LaneVehicle) (minimumGap : ℚ) (spawner : Spawner) :
    ∃ vehicle later, demand.makeVehicle turn params index preceding minimumGap spawner =
        (.ok vehicle, later) ∧ Attempted spawner (some vehicle) later := by
  unfold makeVehicle nextDriverFactors
  cases demand.driverModel with
  | none | some model => exact ⟨_, _, rfl, rfl, rfl, rfl, rfl⟩

section

variable {direction : Direction} {spawner : Spawner}

/-- A pending class is found without a draw. -/
theorem resolveParams_returns
    (hasClass : ∀ population, demand.populationOf direction = some population → ∃ known ∈ population.typeIds, spawner.pendingType direction = some known) :
    ∃ params, demand.resolveParams direction spawner = (.ok params, spawner) := by
  unfold resolveParams
  cases isPopulation : demand.populationOf direction with
  | none => exact ⟨none, rfl⟩
  | some population =>
    obtain ⟨known, member, isPending⟩ := hasClass population isPopulation
    obtain ⟨params, isParams⟩ := Option.isSome_iff_exists.mp (population.paramsByType_isSome member)
    have resolved : demand.resolveType direction population spawner = (.ok known, spawner) := by
      unfold resolveType
      rw [read_bind_run, isPending]
      rfl
    refine ⟨some params, ?_⟩
    dsimp only
    rw [bind_run resolved, isParams]
    rfl

theorem attemptSpawn_returns {turn : TurnIntent} (lanes : List EntryLane)
    (isPending : spawner.pendingTurn direction = some turn)
    (hasClass : ∀ population, demand.populationOf direction = some population → ∃ known ∈ population.typeIds, spawner.pendingType direction = some known) :
    ∃ placed later, demand.attemptSpawn direction lanes spawner = (.ok placed, later) ∧
      Attempted spawner placed later := by
  have resolved : demand.resolveTurn direction spawner = (.ok turn, spawner) := by
    unfold resolveTurn
    rw [read_bind_run, isPending]
    rfl
  obtain ⟨params, isParams⟩ := resolveParams_returns hasClass
  unfold attemptSpawn
  split
  · exact ⟨none, spawner, rfl, rfl, rfl, rfl, rfl⟩
  · rw [bind_run resolved, bind_run isParams]
    generalize roomOn _ _ _ = room
    cases room with
    | none => exact ⟨none, spawner, rfl, rfl, rfl, rfl, rfl⟩
    | some place =>
      obtain ⟨vehicle, later, isMade, attempted⟩ :=
        @makeVehicle_returns demand turn params place.1 place.2
          (params.elim demand.minimumGap VehicleParams.minimumGap)
          (forgetPending direction spawner)
      refine ⟨some vehicle, later, ?_, attempted.source, attempted.backlog,
        attempted.spawned, attempted.drawn⟩
      dsimp only
      rw [Effect.modify_bind_run, bind_run isMade]
      rfl

end

/-- What the second half of an approach's turn can do. -/
structure Offered (demand : Demand) (spawner later : Spawner) : Prop where
  source : later.toSource = spawner.toSource
  apart : later.drawn + 3 * spawner.spawnedCount = spawner.drawn + 3 * later.spawnedCount
  classed : demand.Classed later

/-- A queue that loses its head keeps its classes. -/
theorem Classed.countAdmitted {spawner later : Spawner} (classed : demand.Classed spawner)
    (backlog : later.backlog = spawner.backlog) (direction : Direction) (wait : ℚ) :
    demand.Classed (countAdmitted direction wait later) := by
  intro approach waiting member
  unfold Demand.countAdmitted at member
  rw [backlog] at member
  rcases eq_or_ne approach direction with rfl | isOther
  · simp only [Function.update_self] at member
    exact classed approach waiting (List.mem_of_mem_tail member)
  · simp only [Function.update_of_ne isOther] at member
    exact classed approach waiting member

/-- The entry is offered without a trace in the coming arrivals, apart from the
draws of a vehicle that is placed. -/
theorem offerEntry_returns {spawner : Spawner} (classed : demand.Classed spawner)
    (direction : Direction) (lanes : List EntryLane) (dt : ℚ) :
    ∃ placed later, demand.offerEntry direction lanes dt spawner = (.ok placed, later) ∧
      Offered demand spawner later := by
  unfold offerEntry
  rw [read_bind_run]
  cases isBacklog : spawner.backlog direction with
  | nil => exact ⟨none, spawner, rfl, rfl, rfl, classed⟩
  | cons head =>
    have isHead : head ∈ spawner.backlog direction := by simp [isBacklog]
    have hasClass : ∀ population, demand.populationOf direction = some population →
        ∃ known ∈ population.typeIds, (offerHead direction head spawner).pendingType direction =
            some known := by
      intro population isPopulation
      have isClass := classed direction head isHead
      unfold HasClass at isClass
      rw [isPopulation] at isClass
      obtain ⟨known, member, isKnown⟩ := isClass
      refine ⟨known, member, ?_⟩
      simp [offerHead, isKnown]
    obtain ⟨placed, later, ends, attempted⟩ :=
      @attemptSpawn_returns demand direction (offerHead direction head spawner)
        head.turn lanes (by simp [offerHead]) hasClass
    dsimp only
    rw [Effect.modify_bind_run, bind_run ends]
    have source := attempted.source
    have backlog := attempted.backlog
    have spawned := attempted.spawned
    have drawn := attempted.drawn
    cases placed with
    | none =>
      refine ⟨none, countBlocked direction dt later, rfl, source, ?_, ?_⟩
      · change later.drawn + 3 * spawner.spawnedCount = spawner.drawn + 3 * later.spawnedCount
        rw [drawn, spawned]
        rfl
      · intro approach waiting member
        change waiting ∈ later.backlog approach at member
        rw [backlog] at member
        exact classed approach waiting member
    | some =>
      refine ⟨_, _, rfl, source, ?_, classed.countAdmitted backlog _ _⟩
      change later.drawn + 3 * spawner.spawnedCount = spawner.drawn + 3 * (later.spawnedCount + 1)
      rw [drawn, spawned]
      change spawner.drawn + 3 + 3 * spawner.spawnedCount =
        spawner.drawn + 3 * (spawner.spawnedCount + 1)
      omega

/-- The entries of both sides may go either way. -/
theorem InStep.offered {spawner other later later' : Spawner}
    (inStep : demand.InStep spawner other) (offered : Offered demand spawner later)
    (offered' : Offered demand other later') : demand.InStep later later' where
  source := by rw [offered.source, offered'.source, inStep.source]
  apart := by
    have apart := inStep.apart
    have placed := offered.apart
    have placed' := offered'.apart
    omega
  classed := offered.classed
  classed' := offered'.classed

end Demand
end UrbanFlow.Spawning
