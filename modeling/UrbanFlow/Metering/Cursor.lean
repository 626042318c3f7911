import UrbanFlow.Metering.Builder

/-!
# The metering phase cursor

A built plan and the cursor that runs it. The loop of `advance` has no bound of
its own; it ends because every phase of a built plan takes time.
-/

namespace UrbanFlow

open CarrySchedule CyclicOrder MeteringBuilder

/-- A plan as `build_metering_plan` returns it. -/
structure MeteringPlan extends EntryMeteringPlan where
  specs_ne_nil : specs ≠ []
  yellow_nonneg : 0 ≤ yellow
  allRed_nonneg : 0 ≤ allRed
  offset_nonneg : 0 ≤ offset
  assembled : toEntryMeteringPlan = assemble yellow allRed offset specs spillbackGuard queueCap

namespace MeteringPlan

section

variable (plan : MeteringPlan)

theorem phases_eq : plan.phases = plan.specs.flatMap (specPhases plan.yellow plan.allRed) :=
  congrArg EntryMeteringPlan.phases plan.assembled

theorem meteredEntries_eq :
    plan.meteredEntries = (plan.specs.flatMap MeteredPhaseSpec.entries).dedup :=
  congrArg EntryMeteringPlan.meteredEntries plan.assembled

theorem meteredEntries_nodup : plan.meteredEntries.Nodup := by
  rw [plan.meteredEntries_eq]
  exact List.nodup_dedup _

theorem mem_meteredEntries (approach : Direction) :
    approach ∈ plan.meteredEntries ↔ ∃ spec ∈ plan.specs, approach ∈ spec.entries := by
  rw [plan.meteredEntries_eq, List.mem_dedup, List.mem_flatMap]

theorem phases_nonempty : 0 < plan.phases.length := by
  obtain ⟨_, _, specs⟩ := List.exists_cons_of_ne_nil plan.specs_ne_nil
  rw [plan.phases_eq, specs, List.flatMap_cons, specPhases]
  simp

def timing : Plan where
  phases := plan.phases
  nonempty := plan.phases_nonempty

end

theorem of_build {config : Fields} {built : EntryMeteringPlan}
    (isBuilt : buildMeteringPlan config = .ok built) :
    ∃ plan : MeteringPlan, plan.toEntryMeteringPlan = built := by
  obtain ⟨phases, readPhases, yellow, readYellow, allRed, readAllRed, offset,
    readOffset, specs, readSpecs, guard, _, cap, _, rfl⟩ := build_ok_iff.mp isBuilt
  have present : specs ≠ [] := by
    apply List.ne_nil_of_length_pos
    rw [planSpecs_length readSpecs]
    exact List.length_pos_of_ne_nil (planPhases_ne_nil readPhases)
  exact ⟨⟨_, present, (planDuration_ok_iff.mp readYellow).2, (planDuration_ok_iff.mp readAllRed).2,
    (planDuration_ok_iff.mp readOffset).2, rfl⟩, rfl⟩

end MeteringPlan

abbrev MeteringPhaseCursor (plan : MeteringPlan) : Type := PlanCursor plan.timing

namespace MeteringPhaseCursor

variable {plan : MeteringPlan}

/-- `reset`: the start of the plan, moved by the offset. -/
def reset (plan : MeteringPlan) : MeteringPhaseCursor plan :=
  if 0 < plan.offset ∧ 0 < plan.cycleDuration then
    FixedTimeSignalController.advanceByLoop (plan.phases.length + 1)
      (plan.offset - plan.cycleDuration * ⌊plan.offset / plan.cycleDuration⌋)
      (FixedTimeSignalController.atStart plan.timing)
  else FixedTimeSignalController.atStart plan.timing

def currentPhase (cursor : MeteringPhaseCursor plan) : Phase :=
  plan.timing.phase cursor.currentPhaseIdx

/-- The step to the next phase, at the given time in it. -/
def next (time : ℚ) (cursor : MeteringPhaseCursor plan) : MeteringPhaseCursor plan :=
  let following := plan.timing.next cursor.currentPhaseIdx
  { currentPhaseIdx := following
    timeInCurrentState := time
    cycleNumber := if following < cursor.currentPhaseIdx then cursor.cycleNumber + 1
      else cursor.cycleNumber }

/-- The loop of `advance`, run `fuel` times at most. -/
def advanceLoop : Nat → MeteringPhaseCursor plan → MeteringPhaseCursor plan
  | 0, cursor => cursor
  | fuel + 1, cursor =>
    if 0 < (currentPhase cursor).duration ∧
        (currentPhase cursor).duration ≤ cursor.timeInCurrentState then
      advanceLoop fuel (next (cursor.timeInCurrentState - (currentPhase cursor).duration) cursor)
    else cursor

/-- The shortest phase, or a second where all are longer. -/
def shortest (plan : MeteringPlan) : ℚ :=
  plan.phases.foldr (fun phase least => min phase.duration least) 1

/-- More passes than the loop of `advance` can make in this time. -/
def passes (plan : MeteringPlan) (time : ℚ) : Nat := ⌊time / shortest plan⌋₊ + 1

def advance (deltaTime : ℚ) (cursor : MeteringPhaseCursor plan) :
    Except PyMessage (MeteringPhaseCursor plan) :=
  if deltaTime < 0 then
    .error [.text "delta_time must be non-negative and finite, got ", .str (.float deltaTime)]
  else if deltaTime = 0 then .ok cursor
  else
    .ok (advanceLoop (passes plan (cursor.timeInCurrentState + deltaTime)) { cursor with
        timeInCurrentState := cursor.timeInCurrentState + deltaTime })

section

variable (cursor : MeteringPhaseCursor plan)

/-- `end_green_early`: the cursor after it, and whether a green was ended. -/
def endGreenEarly : Bool × MeteringPhaseCursor plan :=
  if (currentPhase cursor).color = .green then (true, next 0 cursor)
  else (false, cursor)

def currentSpec : Option MeteredPhaseSpec :=
  plan.phaseToSpecIdx[cursor.currentPhaseIdx.val]?.bind (plan.specs[·]?)

end

def getColor (approach : Direction) (cursor : MeteringPhaseCursor plan) : Color :=
  if approach ∈ plan.meteredEntries then if approach ∈ (currentPhase cursor).directions then
      (currentPhase cursor).color
    else .red
  else .green

theorem duration_pos (idx : plan.timing.Idx) : 0 < plan.timing.duration idx := by
  have member : plan.timing.phase idx ∈ plan.phases := List.get_mem _ _
  rw [plan.phases_eq] at member
  obtain ⟨spec, _, isPhase⟩ := List.mem_flatMap.mp member
  exact specPhases_positive isPhase

theorem shortest_le (idx : plan.timing.Idx) : shortest plan ≤ plan.timing.duration idx := by
  have general : ∀ (phases : List Phase) (phase : Phase), phase ∈ phases →
      phases.foldr (fun phase least => min phase.duration least) 1 ≤ phase.duration := by
    intro phases phase member
    induction member with
    | head => exact min_le_left _ _
    | tail _ _ ih => exact (min_le_right _ _).trans ih
  exact general plan.phases _ (List.get_mem _ _)

theorem shortest_pos (plan : MeteringPlan) : 0 < shortest plan := by
  have general : ∀ phases : List Phase, (∀ phase ∈ phases, 0 < phase.duration) →
      0 < phases.foldr (fun phase least => min phase.duration least) 1 := by
    intro phases positive
    induction phases with
    | nil => exact one_pos
    | cons phase _ ih =>
      apply lt_min
      · exact positive phase List.mem_cons_self
      · apply ih
        intro other member
        exact positive other (List.mem_cons_of_mem _ member)
  apply general
  intro phase member
  obtain ⟨idx, rfl⟩ := List.mem_iff_get.mp member
  exact duration_pos idx

section

variable (fuel : Nat) (cursor : MeteringPhaseCursor plan)

/-- The loop passes phases as the library's roll does. -/
theorem advanceLoop_eq_roll :
    advanceLoop fuel cursor = cursor.roll plan.timing.duration plan.timing.next fuel := by
  induction fuel generalizing cursor with
  | zero => rfl
  | succ _ ih =>
    unfold advanceLoop
    by_cases stays : cursor.timeInCurrentState < plan.timing.duration cursor.currentPhaseIdx
    · rw [roll_of_lt _ stays]
      exact if_neg fun ended => not_lt.mpr ended.2 stays
    · rw [roll_succ_of_le _ (not_lt.mp stays), ← ih]
      exact if_pos ⟨duration_pos _, not_lt.mp stays⟩

theorem advanceLoop_rolled :
    ∃ k, Rolled plan.timing.duration plan.timing.next fuel cursor (advanceLoop fuel cursor) k := by
  rw [advanceLoop_eq_roll]
  exact roll_spec fuel cursor

end

/-- A cursor that has time left in the phase it shows. -/
structure Settled (cursor : MeteringPhaseCursor plan) : Prop where
  nonnegative : 0 ≤ cursor.timeInCurrentState
  within : cursor.timeInCurrentState < plan.timing.duration cursor.currentPhaseIdx

theorem reset_settled (plan : MeteringPlan) : Settled (reset plan) := by
  have well : WellTimed (reset plan) := by
    have atStart : WellTimed (FixedTimeSignalController.atStart plan.timing) :=
      ⟨le_refl 0, .inr rfl⟩
    unfold reset
    split
    · exact advanceByLoop_wellTimed _ _ atStart
    · exact atStart
  refine ⟨well.nonnegative, ?_⟩
  rcases well.within with within | entered
  · exact within
  · rw [entered]
    exact duration_pos _

/-- What advancing does: the time step is added, every phase passed is paid for
in full, and the cycles count up. -/
structure Advanced (deltaTime : ℚ) (before after : MeteringPhaseCursor plan) (k : Nat) : Prop where
  settled : Settled after
  rolled : Rolled plan.timing.duration plan.timing.next
    (passes plan (before.timeInCurrentState + deltaTime))
    { before with
      timeInCurrentState := before.timeInCurrentState + deltaTime }
    after k
  cycleNumber : before.cycleNumber ≤ after.cycleNumber

theorem advance_advanced {deltaTime : ℚ} {cursor : MeteringPhaseCursor plan}
    (positive : 0 < deltaTime) (settled : Settled cursor) :
    ∃ after k, advance deltaTime cursor = .ok after ∧ Advanced deltaTime cursor after k := by
  have total : 0 ≤ cursor.timeInCurrentState + deltaTime :=
    add_nonneg settled.nonnegative positive.le
  obtain ⟨k, rolled⟩ := advanceLoop_rolled (passes plan (cursor.timeInCurrentState + deltaTime))
    { cursor with
      timeInCurrentState := cursor.timeInCurrentState + deltaTime }
  refine ⟨_, k, ?_, ⟨rolled.time_nonneg total, ?_⟩, rolled, ?_⟩
  · unfold advance
    rw [if_neg (not_lt.mpr positive.le), if_neg positive.ne']
  · apply rolled.stops_of_least total shortest_le
    dsimp only
    unfold passes
    rw [← div_lt_iff₀ (shortest_pos plan), Nat.cast_add, Nat.cast_one]
    exact Nat.lt_floor_add_one _
  · rw [advanceLoop_eq_roll]
    exact cycleNumber_le_roll _ { cursor with
      timeInCurrentState := cursor.timeInCurrentState + deltaTime }

section

variable (cursor : MeteringPhaseCursor plan)

/-- Ending a green leaves the next phase at its start. -/
theorem next_settled : Settled (next 0 cursor) := ⟨le_refl 0, duration_pos _⟩

theorem next_cycleNumber : cursor.cycleNumber ≤ (next 0 cursor).cycleNumber := by
  dsimp only [next]
  split
  · exact Nat.le_succ _
  · exact le_refl _

end

end MeteringPhaseCursor
end UrbanFlow
