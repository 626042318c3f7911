import Mathlib.Data.List.GetD
import Mathlib.Tactic.IntervalCases
import UrbanFlow.Metering.Gate

/-!
# Latched entries

Runs of the gate under any interleaving of cursor steps, spillback holds,
consultations and vehicle movement. A latch stands until its own lane is
consulted off green without the vehicle, so it answers for the vehicle on any
lane it heads until then.
-/

namespace UrbanFlow

open MeteredEntryGate MeteringPhaseCursor MeteredEntryGate

variable {plan : MeteringPlan}

/-- One step of the metered entries, or of the vehicles around them. -/
inductive GateStep
  | advance (deltaTime : ℚ)
  | endGreenEarly
  | setSpillbackHolds (held : List Direction)
  | update (now : ℚ)
  | consult (approach : Direction) (laneId : String) (now : ℚ)
  | move (vehicles : String → List EntryVehicle)

structure GateWorld (plan : MeteringPlan) where
  cursor : MeteringPhaseCursor plan
  gate : MeteredEntryGate
  vehicles : String → List EntryVehicle

namespace GateWorld

variable (laneLength : String → ℚ)

def lane (laneId : String) (world : GateWorld plan) : EntryLane where
  laneId := laneId
  length := laneLength laneId
  vehicles := world.vehicles laneId

/-- The answer to a consultation. -/
def answer (approach : Direction) (laneId : String) (now : ℚ)
    (world : GateWorld plan) : GateDecision :=
  (world.gate.allows world.cursor approach (world.lane laneLength laneId) now).1

/-- One step. A step the cursor refuses raises before anything has changed. -/
def step (world : GateWorld plan) : GateStep → GateWorld plan
  | .advance deltaTime =>
    match advance deltaTime world.cursor with
    | .ok cursor => { world with cursor := cursor }
    | .error _ => world
  | .endGreenEarly =>
    { world with
      cursor := (endGreenEarly world.cursor).2 }
  | .setSpillbackHolds held => { world with gate := world.gate.setSpillbackHolds held }
  | .update now => { world with gate := world.gate.update world.cursor now }
  | .consult approach laneId now =>
    { world with
      gate := (world.gate.allows world.cursor approach (world.lane laneLength laneId) now).2 }
  | .move vehicles => { world with vehicles := vehicles }

end GateWorld

/-- A run of the metered entries from a reset gate: the entry lanes' lengths,
the vehicles on them at first, and the steps. The spillback guard only holds
metered arms. -/
structure GateRun (plan : MeteringPlan) where
  laneLength : String → ℚ
  vehicles : String → List EntryVehicle
  steps : Nat → GateStep
  holdsMetered : ∀ n held, steps n = .setSpillbackHolds held →
    ∀ arm ∈ held, arm ∈ plan.meteredEntries

namespace GateRun

section Property

variable (run : GateRun plan)

section

variable (n : Nat)

/-- The world before step `n`. -/
def worldAt : GateWorld plan := Machine.stateAt (GateWorld.step run.laneLength)
    { cursor := reset plan, gate := {}
      vehicles := run.vehicles }
    run.steps n

/-- An entry lane before step `n`. -/
def laneAt (laneId : String) : EntryLane := (run.worldAt n).lane run.laneLength laneId

/-- The colour the cursor shows an approach before step `n`. -/
def colorAt (approach : Direction) : Color :=
  getColor approach (run.worldAt n).cursor

/-- An arm is held before step `n`. -/
def HeldAt (approach : Direction) : Prop := approach ∈ (run.worldAt n).gate.spillbackHolds

/-- Step `n` consults a lane of a metered arm that is not held, at a colour that
is not green. -/
def ConsultsClosing (laneId : String) (color : Color) : Prop :=
  ∃ approach now, run.steps n = .consult approach laneId now ∧
    approach ∈ plan.meteredEntries ∧ ¬ run.HeldAt n approach ∧
    run.colorAt n approach = color ∧ color ≠ .green

/-- A consultation of the lane on yellow finds its head, this vehicle, committed
through yellow. -/
def FoundCommitted (laneId vehicleId : String) : Prop :=
  run.ConsultsClosing n laneId .yellow ∧ ∃ head, (run.laneAt n laneId).head = some head ∧
      head.vehicleId = vehicleId ∧
      commitsThroughYellow head ⟨run.laneLength laneId, true⟩ = true

end

/-- A vehicle is on a lane before every step from `j` to `k`. -/
def StaysOn (laneId vehicleId : String) (j k : Nat) : Prop :=
  ∀ i, j ≤ i → i ≤ k → (run.laneAt i laneId).Holds vehicleId

/-- The gate's answers: open for an unmetered arm, closed for a held one, and
off green open only for a vehicle found committed on the lane, where it has
stayed. -/
structure OpensForCommitted : Prop where
  unmetered : ∀ n approach laneId now, run.steps n = .consult approach laneId now →
    approach ∉ plan.meteredEntries →
      ((run.worldAt n).answer run.laneLength approach laneId now).isOpen = true
  held : ∀ n approach laneId now, run.steps n = .consult approach laneId now →
    run.HeldAt n approach →
      ((run.worldAt n).answer run.laneLength approach laneId now).isOpen = false
  committed : ∀ n approach laneId now, run.steps n = .consult approach laneId now →
    approach ∈ plan.meteredEntries →
    run.colorAt n approach ≠ .green →
    ((run.worldAt n).answer run.laneLength approach laneId now).isOpen = true →
      ∃ head, (run.laneAt n laneId).head = some head ∧
        ∃ j, j ≤ n ∧ run.FoundCommitted j laneId head.vehicleId ∧
          run.StaysOn laneId head.vehicleId j n

section

variable (n : Nat) (laneId vehicleId : String)

/-- Step `n` latches a vehicle on a lane: it is found committed, and not latched
yet once that lane's latches are pruned. -/
def Latches : Prop := run.FoundCommitted n laneId vehicleId ∧
    ¬ ((run.worldAt n).gate.prune (run.laneAt n laneId)).Latched vehicleId

/-- Step `n` forgets a latch set on the lane: the lane is consulted off green
without the vehicle. -/
def Forgets : Prop :=
  (∃ color, run.ConsultsClosing n laneId color) ∧ ¬ (run.laneAt n laneId).Holds vehicleId

end

/-- The vehicle that heads a lane consulted off green has kept to the lane its
latch was set on, this one, unless the latch was forgotten since. -/
def KeepsToLane (n : Nat) : Prop := ∀ laneId color, run.ConsultsClosing n laneId color →
    ∀ head, (run.laneAt n laneId).head = some head →
      ∀ j origin, j < n → run.Latches j origin head.vehicleId →
        (∀ i, j < i → i < n → ¬ run.Forgets i origin head.vehicleId) →
          origin = laneId ∧ run.StaysOn laneId head.vehicleId j n

end Property

end GateRun

/-- A fold that keeps what it has or takes the next item ends with what it had or
with one of the items. -/
theorem foldl_chooses {Item : Type} {choose : Option Item → Item → Option Item}
    (chooses : ∀ best item chosen, choose best item = some chosen →
      best = some chosen ∨ chosen = item) {items : List Item} {best : Option Item} {chosen : Item}
    (isChosen : items.foldl choose best = some chosen) : best = some chosen ∨ chosen ∈ items := by
  induction items generalizing best with
  | nil => exact .inl isChosen
  | cons item _ ih =>
    rcases ih isChosen with isFirst | isLater
    · rcases chooses best item chosen isFirst with before | isItem
      · exact .inl before
      · exact .inr (isItem ▸ List.mem_cons_self)
    · exact .inr (List.mem_cons_of_mem item isLater)

theorem EntryLane.head_mem {lane : EntryLane} {head : EntryVehicle}
    (isHead : lane.head = some head) : lane.Holds head.vehicleId := by
  unfold EntryLane.head at isHead
  have found := foldl_chooses (fun best vehicle chosen isChosen => by
      cases best with
      | none => exact .inr (Option.some.inj isChosen).symm
      | some =>
        dsimp only at isChosen
        split at isChosen
        · exact .inr (Option.some.inj isChosen).symm
        · exact .inl isChosen)
    isHead
  cases found with
  | inl impossible => cases impossible
  | inr member => exact List.mem_map_of_mem member

namespace MeteredEntryGate

/-- A latch outlives the pruning of a lane unless it was set there for a vehicle
that has left. -/
theorem mem_prune {lane : EntryLane} {gate : MeteredEntryGate} {vehicleId origin : String} :
    (vehicleId, origin) ∈ (gate.prune lane).yellowLatched ↔
      (vehicleId, origin) ∈ gate.yellowLatched ∧ (origin = lane.laneId → lane.Holds vehicleId) := by
  unfold prune
  rw [List.mem_filter]
  by_cases own : origin = lane.laneId <;> simp [own]

theorem exists_latch {gate : MeteredEntryGate} {vehicleId : String}
    (latched : gate.Latched vehicleId) : ∃ origin, (vehicleId, origin) ∈ gate.yellowLatched := by
  obtain ⟨⟨_, origin⟩, member, rfl⟩ := List.mem_map.mp latched
  exact ⟨origin, member⟩

section

variable {cursor : MeteringPhaseCursor plan} {approach : Direction} {lane : EntryLane} {now : ℚ}
  {gate : MeteredEntryGate}

/-- Where a latch of a consulted gate comes from: it stood before and was not
dropped, or the consultation set it. -/
theorem mem_allows {vehicleId origin : String}
    (member : (vehicleId, origin) ∈ (gate.allows cursor approach lane now).2.yellowLatched) :
    ((vehicleId, origin) ∈ gate.yellowLatched ∧
        (origin = lane.laneId → approach ∈ plan.meteredEntries → approach ∉ gate.spillbackHolds →
          getColor approach cursor ≠ .green → lane.Holds vehicleId)) ∨
      (approach ∈ plan.meteredEntries ∧ approach ∉ gate.spillbackHolds ∧
        getColor approach cursor = .yellow ∧
        origin = lane.laneId ∧ ¬ (gate.prune lane).Latched vehicleId ∧
        ∃ head, lane.head = some head ∧ head.vehicleId = vehicleId ∧
          commitsThroughYellow head ⟨lane.length, true⟩ = true) := by
  have pruned (kept : (vehicleId, origin) ∈ (gate.prune lane).yellowLatched) :
      (vehicleId, origin) ∈ gate.yellowLatched ∧
        (origin = lane.laneId → approach ∈ plan.meteredEntries → approach ∉ gate.spillbackHolds →
          getColor approach cursor ≠ .green → lane.Holds vehicleId) := by
    obtain ⟨stood, holds⟩ := mem_prune.mp kept
    exact ⟨stood, fun own _ _ _ => holds own⟩
  unfold allows at member
  split at member
  · next unmetered => exact .inl ⟨member, fun _ metered => absurd metered unmetered⟩
  · next metered =>
      rw [not_not] at metered
      split at member
      · next held => exact .inl ⟨member, fun _ _ notHeld => absurd held notHeld⟩
      · next notHeld =>
          split at member
          · next green => exact .inl ⟨member, fun _ _ _ notGreen => absurd green notGreen⟩
          · next yellow =>
              unfold allowsYellow at member
              split at member
              · exact .inl (pruned member)
              · next head isHead =>
                  split at member
                  · exact .inl (pruned member)
                  · next fresh =>
                      split at member
                      · next commits =>
                          rcases List.mem_cons.mp member with new | old
                          · cases new
                            exact .inr ⟨metered, notHeld, yellow, rfl, fresh,
                              head, isHead, rfl, commits⟩
                          · exact .inl (pruned old)
                      · exact .inl (pruned member)
          · unfold allowsRed at member
            split at member
            · exact .inl (pruned member)
            · split at member
              · exact .inl (pruned member)
              · exact .inl (pruned member)

theorem allows_open (metered : approach ∈ plan.meteredEntries)
    (notGreen : getColor approach cursor ≠ .green)
    (isOpen : (gate.allows cursor approach lane now).1.isOpen = true) :
    approach ∉ gate.spillbackHolds ∧ ∃ head, lane.head = some head ∧
      ((gate.prune lane).Latched head.vehicleId ∨
        getColor approach cursor = .yellow ∧
          commitsThroughYellow head ⟨lane.length, true⟩ = true) := by
  unfold allows at isOpen
  rw [if_neg (not_not.mpr metered)] at isOpen
  split at isOpen
  · exact Bool.noConfusion isOpen
  · next notHeld =>
      refine ⟨notHeld, ?_⟩
      split at isOpen
      · next green => exact absurd green notGreen
      · next yellow =>
          unfold allowsYellow at isOpen
          split at isOpen
          · exact Bool.noConfusion isOpen
          · next head isHead =>
              refine ⟨head, isHead, ?_⟩
              split at isOpen
              · next latched => exact .inl latched
              · split at isOpen
                · next commits => exact .inr ⟨yellow, commits⟩
                · exact Bool.noConfusion isOpen
      · unfold allowsRed at isOpen
        split at isOpen
        · exact Bool.noConfusion isOpen
        · next head isHead =>
            refine ⟨head, isHead, ?_⟩
            split at isOpen
            · next latched => exact .inl latched
            · exact Bool.noConfusion isOpen

end

end MeteredEntryGate

namespace GateRun

variable (run : GateRun plan)

theorem worldAt_succ (n : Nat) : run.worldAt (n + 1) =
      (run.worldAt n).step run.laneLength (run.steps n) :=
  Machine.stateAt_succ _ _ _ n

theorem metered_of_held {n : Nat} {approach : Direction} (held : run.HeldAt n approach) :
    approach ∈ plan.meteredEntries := by
  unfold HeldAt at held
  induction n with
  | zero => exact absurd held List.not_mem_nil
  | succ n ih =>
    rw [worldAt_succ] at held
    cases isStep : run.steps n with
    | advance deltaTime =>
      rw [isStep] at held
      unfold GateWorld.step at held
      apply ih
      cases advanced : advance deltaTime (run.worldAt n).cursor with
      | ok cursor | error message => simpa [advanced] using held
    | endGreenEarly | move vehicles =>
      rw [isStep] at held
      exact ih held
    | setSpillbackHolds arms =>
      rw [isStep] at held
      exact run.holdsMetered n arms isStep approach held
    | update now =>
      rw [isStep] at held
      apply ih
      rw [← (update_latches (run.worldAt n).cursor now (run.worldAt n).gate).2]
      exact held
    | consult other laneId now =>
      rw [isStep] at held
      apply ih
      rw [← allows_holds (run.worldAt n).cursor other (run.laneAt n laneId) now]
      exact held

section

variable {n : Nat} {vehicleId origin : String}

theorem latched_step (member : (vehicleId, origin) ∈ (run.worldAt (n + 1)).gate.yellowLatched) :
    ((vehicleId, origin) ∈ (run.worldAt n).gate.yellowLatched ∧ ¬ run.Forgets n origin vehicleId) ∨
      run.Latches n origin vehicleId := by
  rw [worldAt_succ] at member
  have kept (notConsult : ∀ approach laneId now, run.steps n ≠ .consult approach laneId now)
      (stood : (vehicleId, origin) ∈ (run.worldAt n).gate.yellowLatched) :
      ((vehicleId, origin) ∈ (run.worldAt n).gate.yellowLatched ∧
          ¬ run.Forgets n origin vehicleId) ∨
        run.Latches n origin vehicleId := by
    refine .inl ⟨stood, ?_⟩
    rintro ⟨⟨_, approach, now, isConsult, _⟩, _⟩
    exact notConsult approach origin now isConsult
  cases isStep : run.steps n with
  | advance deltaTime =>
    rw [isStep] at member
    unfold GateWorld.step at member
    apply kept (by simp [isStep])
    cases advanced : advance deltaTime (run.worldAt n).cursor with
    | ok cursor | error message => simpa [advanced] using member
  | endGreenEarly | setSpillbackHolds arms | move vehicles =>
    rw [isStep] at member
    exact kept (by simp [isStep]) member
  | update now =>
    rw [isStep] at member
    apply kept (by simp [isStep])
    rw [← (update_latches (run.worldAt n).cursor now (run.worldAt n).gate).1]
    exact member
  | consult approach laneId now =>
    rw [isStep] at member
    rcases mem_allows member with
      ⟨stood, onLane⟩ | ⟨metered, notHeld, yellow, own, fresh, head, isHead, isVehicle, commits⟩
    · refine .inl ⟨stood, ?_⟩
      rintro ⟨⟨_, _, _, isConsult, metered, notHeld, isColor, notGreen⟩, left⟩
      rw [isStep] at isConsult
      cases isConsult
      exact left (onLane rfl metered notHeld (by
        change run.colorAt n approach ≠ .green
        rw [isColor]
        exact notGreen))
    · obtain rfl : origin = laneId := own
      exact .inr ⟨⟨⟨approach, now, isStep, metered, notHeld, yellow, nofun⟩,
        head, isHead, isVehicle, commits⟩, fresh⟩

/-- Every latch was set by some step, and not forgotten since. -/
theorem exists_latching (member : (vehicleId, origin) ∈ (run.worldAt n).gate.yellowLatched) :
    ∃ j, j < n ∧ run.Latches j origin vehicleId ∧
      ∀ i, j < i → i < n → ¬ run.Forgets i origin vehicleId := by
  induction n with
  | zero => exact absurd member List.not_mem_nil
  | succ n ih =>
    rcases run.latched_step member with ⟨stood, notForgotten⟩ | set
    · obtain ⟨j, earlier, set, kept⟩ := ih stood
      refine ⟨j, by omega, set, fun i after before => ?_⟩
      rcases Nat.lt_succ_iff_lt_or_eq.mp before with sooner | rfl
      · exact kept i after sooner
      · exact notForgotten
    · exact ⟨n, Nat.lt_succ_self n, set, fun i after before => by omega⟩

end

/-- North and south, then east and west, twenty seconds each. -/
def twoPhasePlan : MeteringPlan where
  toEntryMeteringPlan := MeteringBuilder.assemble 3 2 0
    [⟨[.north, .south], 20, 8, 40, MeteredPhaseSpec.northSouth_ne_nil,
        MeteredPhaseSpec.eightSeconds_pos, by decide, by decide⟩,
     ⟨[.east, .west], 20, 8, 40, MeteredPhaseSpec.eastWest_ne_nil,
        MeteredPhaseSpec.eightSeconds_pos, by decide, by decide⟩]
    .plain .plain
  specs_ne_nil := by decide
  yellow_nonneg := by decide
  allRed_nonneg := by decide
  offset_nonneg := by decide
  assembled := rfl

/-- A car at ten metres a second, a metre before the line of a fifty-metre
lane. -/
def approachingCar : EntryVehicle where
  vehicleId := "car"
  position := 49
  speed := 10
  length := 4

/-- The steps of `yellowThenRed`. -/
def yellowThenRedSteps (laneAfter : String) : List GateStep :=
  [.advance 21, .consult .north "n0" 21,
    .move fun laneId => if laneId = laneAfter then [approachingCar] else [],
    .advance 3, .consult .north laneAfter 24]

/-- The car is consulted on its lane a second into yellow, and again at red, on
the lane it is on then. -/
def yellowThenRed (laneAfter : String) : GateRun twoPhasePlan where
  laneLength := fun _ => 50
  vehicles := fun laneId => if laneId = "n0" then [approachingCar] else []
  steps := fun n => (yellowThenRedSteps laneAfter).getD n (.update 25)
  holdsMetered := by
    intro n held isStep
    rcases Nat.lt_or_ge n 5 with early | late
    · interval_cases n <;> exact nomatch isStep
    · rw [List.getD_eq_default _ _ late] at isStep
      exact nomatch isStep

theorem yellowThenRed_consults {laneAfter laneId : String} {n : Nat} {approach : Direction}
    {now : ℚ} (isStep : (yellowThenRed laneAfter).steps n = .consult approach laneId now) :
    n = 1 ∧ laneId = "n0" ∨ n = 4 ∧ laneId = laneAfter := by
  change (yellowThenRedSteps laneAfter).getD n (.update 25) = _ at isStep
  rcases Nat.lt_or_ge n 5 with early | late
  · interval_cases n <;> cases isStep <;> simp
  · rw [List.getD_eq_default _ _ late] at isStep
    exact nomatch isStep

end GateRun
end UrbanFlow
