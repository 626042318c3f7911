import UrbanFlow.Discovery.Space

/-!
# Search specifications and seed pools

The declared regime, the budget of a search and the simulation runs it plans.
The seeds of the three pools are drawn until enough differ, so that no seed is in
two pools.
-/

namespace UrbanFlow.Discovery

inductive Aggression
  | standard
  | moderate
  | high
  deriving DecidableEq, Repr

inductive VehicleMix
  | default
  | heavyVehicles
  | twoWheelers
  deriving DecidableEq, Repr

structure EntryQueueSpec where
  enabled : Bool
  capacity : Option Nat
  deriving DecidableEq, Repr

/-- `Regime`: the traffic that candidates are tuned for. -/
structure Regime where
  vehiclesPerHour : Int := 600
  unevenDemand : Bool := false
  lanesPerArm : Nat := 1
  aggression : Option Aggression := none
  mix : VehicleMix := .default
  duration : ℚ := 150
  warmup : ℚ := 30
  entryQueue : Option EntryQueueSpec := none
  deriving DecidableEq

/-- `Budget`, within the bounds of its fields. -/
structure Budget where
  population : Nat := 10
  generations : Nat := 6
  tuningSeeds : Nat := 2
  selectionSeeds : Nat := 3
  heldOutSeeds : Nat := 10
  paretoCap : Nat := 6
  shortlist : Nat := 3
  unseenGrid : Bool := true
  populationBounds : 4 ≤ population ∧ population ≤ 24 := by decide
  generationsBounds : 1 ≤ generations ∧ generations ≤ 20 := by decide
  tuningBounds : 1 ≤ tuningSeeds ∧ tuningSeeds ≤ 3 := by decide
  selectionBounds : 2 ≤ selectionSeeds ∧ selectionSeeds ≤ 5 := by decide
  heldOutBounds : 10 ≤ heldOutSeeds ∧ heldOutSeeds ≤ 20 := by decide
  paretoBounds : 2 ≤ paretoCap ∧ paretoCap ≤ 8 := by decide
  shortlistBounds : 1 ≤ shortlist ∧ shortlist ≤ 4 := by decide

structure SearchSpec where
  regime : Regime := {}
  budget : Budget := {}
  strategies : List Strategy := [.fixedTime, .adaptive, .roundabout, .signalisedRoundabout]
  someStrategy : 1 ≤ strategies.length ∧ strategies.length ≤ 4 := by decide

def baselines : List Strategy := [.fixedTime, .adaptive, .roundabout]

def unseenDemandScales : List ℚ := [8 / 10, 12 / 10]

def unseenAggression : List Aggression := [.standard, .high]

def unseenSeeds : Nat := 2

namespace Budget

variable (budget : Budget)

/-- The candidates of the held-out evaluation: the shortlist and the baselines. -/
def finalists : Nat := budget.shortlist + baselines.length

def tuningRuns (generations : Nat) : Nat := budget.population * generations * budget.tuningSeeds

/-- The runs planned up to the end of tuning, of selection, of the held-out
evaluation and of the unseen conditions. -/
def untilTuned : Nat := budget.tuningRuns budget.generations

def untilSelected : Nat := budget.untilTuned + budget.paretoCap * budget.selectionSeeds

def untilHeldOut : Nat := budget.untilSelected + budget.finalists * budget.heldOutSeeds

def plannedRuns : Nat := if budget.unseenGrid then
    budget.untilHeldOut + budget.finalists * unseenDemandScales.length *
      unseenAggression.length * unseenSeeds
  else budget.untilHeldOut

end Budget

/-- `SeedPools`: no seed is drawn twice. -/
structure SeedPools (budget : Budget) where
  tuning : List Nat
  selection : List Nat
  heldOut : List Nat
  distinct : (tuning ++ selection ++ heldOut).Nodup
  tuningLength : tuning.length = budget.tuningSeeds
  selectionLength : selection.length = budget.selectionSeeds
  heldOutLength : heldOut.length = budget.heldOutSeeds

namespace SeedPools

/-- The loop that draws seeds until enough differ, for as many draws as `fuel`
allows. -/
def drawDistinct (draws : Nat → Nat) (count : Nat) : Nat → Nat → List Nat → Option (List Nat)
  | 0, _, _ => none
  | fuel + 1, position, drawn =>
    if drawn.length < count then
      let value := draws position
      drawDistinct draws count fuel (position + 1)
        (if value ∈ drawn then drawn else drawn ++ [value])
    else some drawn

/-- What is drawn differs, and is as much as was asked for. -/
theorem drawDistinct_some {draws : Nat → Nat} {count fuel position : Nat} {drawn result : List Nat}
    (isDrawn : drawDistinct draws count fuel position drawn = some result)
    (distinct : drawn.Nodup) (notTooMany : drawn.length ≤ count) :
    result.Nodup ∧ result.length = count := by
  induction fuel generalizing position drawn with
  | zero => exact nomatch isDrawn
  | succ _ ih =>
    unfold drawDistinct at isDrawn
    split at isDrawn
    · next wantsMore =>
        apply ih isDrawn
        · split
          · exact distinct
          · next isNew =>
              rw [List.nodup_append]
              refine ⟨distinct, List.nodup_singleton _, ?_⟩
              intro old member other isOther same
              rw [List.mem_singleton.mp isOther] at same
              exact isNew (same ▸ member)
        · split
          · exact notTooMany
          · rw [List.length_append]
            exact wantsMore
    · next enough =>
        rw [← Option.some.inj isDrawn]
        exact ⟨distinct, Nat.le_antisymm notTooMany (not_lt.mp enough)⟩

def ofDistinct (budget : Budget) (drawn : List Nat) (distinct : drawn.Nodup)
    (enough : drawn.length = budget.tuningSeeds + budget.selectionSeeds + budget.heldOutSeeds) :
    SeedPools budget where
  tuning := drawn.take budget.tuningSeeds
  selection := (drawn.drop budget.tuningSeeds).take budget.selectionSeeds
  heldOut := drawn.drop (budget.tuningSeeds + budget.selectionSeeds)
  distinct := by
    rw [List.append_assoc, ← List.drop_drop, List.take_append_drop, List.take_append_drop]
    exact distinct
  tuningLength := by
    rw [List.length_take]
    omega
  selectionLength := by
    rw [List.length_take, List.length_drop]
    omega
  heldOutLength := by
    rw [List.length_drop]
    omega

/-- The pools that a generator's draws give, if the loop ends. -/
def ofDraws (draws : Nat → Nat) (budget : Budget) (fuel : Nat) : Option (SeedPools budget) :=
  match isDrawn : drawDistinct draws
      (budget.tuningSeeds + budget.selectionSeeds + budget.heldOutSeeds) fuel 0
      [] with
  | some drawn =>
    have result := drawDistinct_some isDrawn List.nodup_nil (Nat.zero_le _)
    some (ofDistinct budget drawn result.1 result.2)
  | none => none

variable {budget : Budget} (pools : SeedPools budget) {seed : Nat}

theorem heldOut_fresh (isHeldOut : seed ∈ pools.heldOut) :
    seed ∉ pools.tuning ∧ seed ∉ pools.selection := by
  have apart := List.disjoint_of_nodup_append pools.distinct
  constructor
  · intro isTuning
    exact apart (List.mem_append_left _ isTuning) isHeldOut
  · intro isSelection
    exact apart (List.mem_append_right _ isSelection) isHeldOut

theorem tuning_fresh (isTuning : seed ∈ pools.tuning) :
    seed ∉ pools.selection ∧ seed ∉ pools.heldOut := by
  have distinct := pools.distinct
  rw [List.append_assoc] at distinct
  have apart := List.disjoint_of_nodup_append distinct
  constructor
  · intro isSelection
    exact apart isTuning (List.mem_append_left _ isSelection)
  · intro isHeldOut
    exact apart isTuning (List.mem_append_right _ isHeldOut)

end SeedPools
end UrbanFlow.Discovery
