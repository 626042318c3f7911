import UrbanFlow.Adaptive.Clearance
import UrbanFlow.Library.ForwardMovement

/-!
# Wraps of the adaptive plan

The cursor moves forward in the cyclic plan, so it passes the end of the plan
whenever it steps to a lower index. The count goes up when such a step enters a
green; steps to a clearance phase are not counted.
-/

namespace UrbanFlow

open CarrySchedule CyclicOrder Descents

variable {plan : Plan}

namespace AdaptiveController

/-- No stage of the plan goes round its end. -/
def StagesInOrder (signal : AdaptiveSignal plan) : Prop :=
  ∀ stage ∈ signal.stages, (stage.greens ++ stage.clearances).Pairwise (· < ·)

instance (signal : AdaptiveSignal plan) : Decidable (StagesInOrder signal) :=
  inferInstanceAs (Decidable (∀ stage ∈ signal.stages, _))

section

variable {signal : AdaptiveSignal plan} (inOrder : StagesInOrder signal)

include inOrder

theorem lt_following {idx following : plan.Idx} (isNext : (signal.stageOf idx).clearances[
      (signal.stageOf idx).clearances.idxOf idx + 1]? = some following)
    (isClearance : plan.isGreen idx = false) : idx < following := by
  obtain ⟨isStage, _, ofClearance⟩ := signal.stageOf_spec idx
  have ordered := (List.pairwise_append.mp (inOrder _ isStage)).2.1
  have member := ofClearance isClearance
  obtain ⟨inRange, isFollowing⟩ := List.getElem?_eq_some_iff.mp isNext
  have isHere := List.getElem_idxOf (List.idxOf_lt_length_of_mem member)
  have grows := List.pairwise_iff_getElem.mp ordered ((signal.stageOf idx).clearances.idxOf idx)
    ((signal.stageOf idx).clearances.idxOf idx + 1)
    (List.idxOf_lt_length_of_mem member) inRange (Nat.lt_succ_self _)
  rwa [isHere, isFollowing] at grows

theorem lt_first_clearance {idx : plan.Idx} (isGreen : plan.isGreen idx = true) :
    idx < (signal.stageOf idx).clearances.headD idx := by
  obtain ⟨isStage, ofGreen, _⟩ := signal.stageOf_spec idx
  obtain ⟨⟨rest, isFirst⟩, _, _⟩ :=
    signal.first_clearance (Eq.refl ((signal.stageOf idx).clearances.headD idx))
  apply (List.pairwise_append.mp (inOrder _ isStage)).2.2 idx (ofGreen isGreen)
  rw [isFirst]
  exact List.mem_cons_self

end

/-- The phases that the loop over clearance phases moves the cursor to. -/
def passedPhases (signal : AdaptiveSignal plan) : Nat → AdaptiveController plan → List plan.Idx
  | 0, _ => []
  | fuel + 1, s =>
    if plan.isGreen s.index = false ∧ plan.duration s.index ≤ s.time then
      let following := afterClearance signal (s.setTime (s.time - plan.duration s.index))
      following.index :: passedPhases signal fuel following
    else []

/-- The controller with the time step on its clocks. -/
def ticked (deltaTime : ℚ) (s : AdaptiveController plan) : AdaptiveController plan :=
  { s with
    clock := s.clock + deltaTime
    base :=
      { s.base with
        timeInCurrentState := s.base.timeInCurrentState + deltaTime } }

/-- The phase that a controller was moved to, if it is another one. -/
def moves (s after : AdaptiveController plan) : List plan.Idx :=
  if after.index = s.index then [] else [after.index]

/-- The phases that an update moves the cursor to, those without time included. -/
def visited (signal : AdaptiveSignal plan) (deltaTime : ℚ) (traffic : LaneTraffic)
    (s : AdaptiveController plan) : List plan.Idx :=
  if plan.isGreen s.index then
    moves s ((s.ticked deltaTime).updateGreen signal deltaTime (observe signal traffic s.index))
  else if plan.duration s.index ≤ (s.ticked deltaTime).time then
    passedPhases signal plan.phases.length (s.ticked deltaTime)
  else []

/-- A phase without a green. -/
def offGreen (idx : plan.Idx) : Bool := !plan.isGreen idx

/-- A pending target is a green. -/
def HeadsForGreen (s : AdaptiveController plan) : Prop :=
  ∀ idx, s.target = some idx → plan.isGreen idx = true

/-- Along the phases that the cursor was moved to, every wrap is counted except
those to a clearance phase, of which there are none unless a stage wraps; and the
cursor is at the last of them. -/
structure Counted (signal : AdaptiveSignal plan) (s after : AdaptiveController plan)
    (path : List plan.Idx) : Prop where
  cycles : after.base.cycleNumber + descents offGreen (s.index :: path) =
    s.base.cycleNumber + descents (fun _ => true) (s.index :: path)
  last : (s.index :: path).getLast? = some after.index
  uncounted : StagesInOrder signal → descents offGreen (s.index :: path) = 0
  heads : after.HeadsForGreen

variable {signal : AdaptiveSignal plan}

section

variable {s after : AdaptiveController plan}

theorem Counted.stay (sameIndex : after.index = s.index)
    (sameCycles : after.base.cycleNumber = s.base.cycleNumber) (heads : after.HeadsForGreen) :
    Counted signal s after [] := by
  refine ⟨?_, ?_, fun _ => rfl, heads⟩
  · rw [descents_singleton, descents_singleton, sameCycles]
  · rw [List.getLast?_singleton, sameIndex]

theorem Counted.enter (isGreen : plan.isGreen after.index = true) (differs : after.index ≠ s.index)
    (cycles : after.base.cycleNumber = if after.index ≤ s.index then s.base.cycleNumber + 1 else s.base.cycleNumber)
    (heads : after.HeadsForGreen) : Counted signal s after [after.index] := by
  have isStep : after.index ≤ s.index ↔ after.index < s.index :=
    ⟨fun le => lt_of_le_of_ne le differs, le_of_lt⟩
  refine ⟨?_, rfl, fun _ => ?_, heads⟩
  · simp only [descents_cons_cons, descents_singleton, offGreen, isGreen, Bool.not_true,
      Bool.false_eq_true, and_false, if_false, and_true, cycles, isStep]
    split_ifs <;> rfl
  · simp [descents_cons_cons, offGreen, isGreen]

theorem Counted.clear (isClearance : plan.isGreen after.index = false)
    (cycles : after.base.cycleNumber = s.base.cycleNumber)
    (ahead : StagesInOrder signal → s.index < after.index) (heads : after.HeadsForGreen) :
    Counted signal s after [after.index] := by
  refine ⟨?_, rfl, fun inOrder => ?_, heads⟩
  · simp only [descents_cons_cons, descents_singleton, offGreen, isClearance,
      Bool.not_false, cycles]
  · simp [descents_cons_cons, lt_asymm (ahead inOrder)]

theorem Counted.moved (counted : Counted signal s after [after.index])
    (differs : after.index ≠ s.index) : Counted signal s after (moves s after) := by
  rwa [moves, if_neg differs]

theorem Counted.stayed (counted : Counted signal s after []) (sameIndex : after.index = s.index) :
    Counted signal s after (moves s after) := by
  rwa [moves, if_pos sameIndex]

end

/-- One move, and then the moves after it. -/
theorem Counted.cons {s following after : AdaptiveController plan} {path : List plan.Idx}
    (first : Counted signal s following [following.index])
    (rest : Counted signal following after path) :
    Counted signal s after (following.index :: path) := by
  refine ⟨?_, ?_, fun inOrder => ?_, rest.heads⟩
  · have here := first.cycles
    have later := rest.cycles
    simp only [descents_cons_cons, descents_singleton] at here ⊢
    omega
  · rw [List.getLast?_cons_cons]
    exact rest.last
  · have here := first.uncounted inOrder
    have later := rest.uncounted inOrder
    simp only [descents_cons_cons, descents_singleton] at here ⊢
    omega

/-- The end of a clearance phase moves the cursor to the next one of its stage or to
a green. -/
theorem afterClearance_counted {s : AdaptiveController plan}
    (isClearance : plan.isGreen s.index = false) (heads : s.HeadsForGreen) :
    Counted signal s (afterClearance signal s) [(afterClearance signal s).index] := by
  obtain ⟨isStage, _, _⟩ := signal.stageOf_spec s.index
  have well := signal.wellFormed isStage
  cases isNext : (signal.stageOf s.index).clearances[
      (signal.stageOf s.index).clearances.idxOf s.index + 1]? with
  | some following =>
    have moved : afterClearance signal s = { s with
          base := { s.base with currentPhaseIdx := following }
          status := .clearance } := by
      dsimp only [afterClearance]
      rw [isNext]
    rw [moved]
    exact Counted.clear (well.clearances following (List.mem_of_getElem? isNext)) rfl
      (fun inOrder => lt_following inOrder isNext isClearance) heads
  | none =>
    obtain ⟨green, isGreen⟩ := signal.exists_green
    obtain ⟨goal, isGoal, goalGreen, _⟩ := exists_goal isGreen heads isClearance
    have moved : ∃ skipped, afterClearance signal s = (enterGreen goal
          { s with target := none, phasesSkipped := skipped }).setTime s.time := by
      dsimp only [afterClearance]
      rw [isNext, isGoal]
      exact ⟨_, rfl⟩
    obtain ⟨skipped, moved⟩ := moved
    rw [moved]
    refine Counted.enter goalGreen ?_ rfl fun _ => nofun
    intro same
    have impossible : plan.isGreen goal = false := (congrArg plan.isGreen same).trans isClearance
    rw [goalGreen] at impossible
    cases impossible

theorem passClearances_counted (fuel : Nat) {s : AdaptiveController plan}
    (heads : s.HeadsForGreen) :
    Counted signal s (passClearances signal fuel s) (passedPhases signal fuel s) := by
  induction fuel generalizing s with
  | zero => exact Counted.stay rfl rfl heads
  | succ _ ih =>
    unfold passClearances passedPhases
    split
    · next due =>
        obtain ⟨cycles, last, uncounted, headsOn⟩ := @afterClearance_counted plan signal
          (s.setTime (s.time - plan.duration s.index)) due.1 heads
        have moved : Counted signal s
            (afterClearance signal (s.setTime (s.time - plan.duration s.index)))
            [(afterClearance signal (s.setTime (s.time - plan.duration s.index))).index] :=
          ⟨cycles, last, uncounted, headsOn⟩
        exact moved.cons (ih headsOn)
    · exact Counted.stay rfl rfl heads

theorem terminate_counted {s : AdaptiveController plan} (reason : GreenDecision)
    (calling : List (plan.Idx × Nat)) (isGreen : plan.isGreen s.index = true)
    (heads : s.HeadsForGreen) : Counted signal s (terminate signal reason calling s)
      (moves s (terminate signal reason calling s)) := by
  cases isFound : (orderAfter s.index).find? (· ∈ calling.map Prod.fst) with
  | none =>
    have stays : terminate signal reason calling s = s := by
      unfold terminate
      rw [isFound]
    rw [stays]
    exact (Counted.stay rfl rfl heads).stayed rfl
  | some target =>
    have targetGreen := isGreen_of_find? isFound
    unfold terminate
    rw [isFound]
    dsimp only
    split
    · have differs : target ≠ s.index := by
        have member := List.mem_of_find?_eq_some isFound
        have onTail := (List.mem_filter.mp member).1
        have nodup := nodup_walk s.index
        rw [walk_eq_cons, List.nodup_cons] at nodup
        rintro rfl
        exact nodup.1 onTail
      apply Counted.moved
      · apply Counted.enter
        · exact targetGreen
        · exact differs
        · rfl
        · exact heads
      · exact differs
    · obtain ⟨_, isClearance, _⟩ :=
        signal.first_clearance (Eq.refl ((signal.stageOf s.index).clearances.headD s.index))
      have differs : (signal.stageOf s.index).clearances.headD s.index ≠ s.index := by
        intro same
        rw [same, isGreen] at isClearance
        cases isClearance
      apply Counted.moved
      · apply Counted.clear
        · exact isClearance
        · rfl
        · exact fun inOrder => lt_first_clearance inOrder isGreen
        · rintro idx ⟨⟩
          exact targetGreen
      · exact differs

/-- An update counts the wraps of the cursor except those to clearance phases. -/
theorem update_counted (dt : ℚ) (traffic : LaneTraffic) {s : AdaptiveController plan}
    (heads : s.HeadsForGreen) :
    Counted signal s (s.update signal dt traffic) (visited signal dt traffic s) := by
  have tickedHeads : (s.ticked dt).HeadsForGreen := heads
  have ofTicked {after : AdaptiveController plan} {path : List plan.Idx}
      (counted : Counted signal (s.ticked dt) after path) : Counted signal s after path :=
    ⟨counted.cycles, counted.last, counted.uncounted, counted.heads⟩
  unfold visited
  by_cases isGreen : plan.isGreen s.index = true
  · have updated : s.update signal dt traffic =
        (s.ticked dt).updateGreen signal dt (observe signal traffic s.index) :=
      if_pos isGreen
    rw [if_pos isGreen, updated]
    generalize observe signal traffic s.index = seen
    cases isOver : greenOver signal (waiting signal seen)
        ((s.ticked dt).observeGreen signal dt seen) with
    | some reason =>
      have ended : (s.ticked dt).updateGreen signal dt seen =
          terminate signal reason (waiting signal seen)
            ((s.ticked dt).observeGreen signal dt seen) := by
        dsimp only [updateGreen]
        rw [isOver]
      rw [ended]
      obtain ⟨cycles, last, uncounted, headsOn⟩ := @terminate_counted plan signal
        ((s.ticked dt).observeGreen signal dt seen) reason (waiting signal seen) isGreen heads
      exact ⟨cycles, last, uncounted, headsOn⟩
    | none =>
      have goesOn : (s.ticked dt).updateGreen signal dt seen =
          goOn signal dt seen ((s.ticked dt).observeGreen signal dt seen) := by
        dsimp only [updateGreen]
        rw [isOver]
      rw [goesOn]
      obtain ⟨sameBase, sameTarget, _⟩ := goOn_same signal dt seen
        ((s.ticked dt).observeGreen signal dt seen)
      have sameIndex := congrArg Cursor.currentPhaseIdx sameBase
      have sameCycles := congrArg Cursor.cycleNumber sameBase
      refine Counted.stayed (Counted.stay sameIndex sameCycles fun idx isTarget =>
        heads idx ?_) sameIndex
      exact sameTarget.symm.trans isTarget
  · rw [if_neg isGreen]
    split
    · next due =>
        have updated : s.update signal dt traffic =
            passClearances signal plan.phases.length (s.ticked dt) :=
          (if_neg isGreen).trans (if_pos due)
        rw [updated]
        exact ofTicked (passClearances_counted _ tickedHeads)
    · next notDue =>
        have updated : s.update signal dt traffic = { s.ticked dt with status := .clearance } :=
          (if_neg isGreen).trans (if_neg notDue)
        rw [updated]
        exact Counted.stay rfl rfl heads

end AdaptiveController

namespace AdaptiveRun

open AdaptiveController

variable (signal : AdaptiveSignal plan) (ticks : Nat → AdaptiveTick)

/-- The phases that the cursor was at, in order, up to tick `n`. -/
def path : Nat → List plan.Idx
  | 0 => [shown signal ticks 0]
  | n + 1 =>
    path n ++ visited signal (ticks n).deltaTime (ticks n).traffic (controllerAt signal ticks n)

/-- How often the cursor has passed from the end of the plan to its beginning. -/
def wraps (n : Nat) : Nat := descents (fun _ => true) (path signal ticks n)

/-- How often it did so to show a clearance phase. -/
def clearanceWraps (n : Nat) : Nat := descents offGreen (path signal ticks n)

/-- What is known of the cursor's path. -/
structure Counts (n : Nat) : Prop where
  cycles : (controllerAt signal ticks n).base.cycleNumber +
    clearanceWraps signal ticks n = wraps signal ticks n
  uncounted : StagesInOrder signal → clearanceWraps signal ticks n = 0
  last : (path signal ticks n).getLast? = some (shown signal ticks n)
  heads : (controllerAt signal ticks n).HeadsForGreen

theorem counts (n : Nat) : Counts signal ticks n := by
  induction n with
  | zero => exact ⟨rfl, fun _ => rfl, rfl, fun _ => nofun⟩
  | succ n ih =>
    obtain ⟨cycles, uncounted, last, heads⟩ := ih
    have tick := @update_counted plan signal (ticks n).deltaTime (ticks n).traffic _ heads
    rw [← controllerAt_succ] at tick
    obtain ⟨before, isPath⟩ := List.getLast?_eq_some_iff.mp last
    have isLonger : path signal ticks (n + 1) = before ++ shown signal ticks n ::
          visited signal (ticks n).deltaTime (ticks n).traffic (controllerAt signal ticks n) := by
      rw [path, isPath, List.append_assoc]
      rfl
    have grown (kind : plan.Idx → Bool) : descents kind (path signal ticks (n + 1)) =
          descents kind (path signal ticks n) + descents kind (shown signal ticks n ::
              visited signal (ticks n).deltaTime (ticks n).traffic
                (controllerAt signal ticks n)) := by
      rw [isLonger, descents_append, ← isPath]
    refine ⟨?_, fun inOrder => ?_, ?_, tick.heads⟩
    · have here := tick.cycles
      change _ + descents offGreen (shown signal ticks n :: _) =
        _ + descents _ (shown signal ticks n :: _) at here
      rw [clearanceWraps, wraps, grown, grown]
      rw [clearanceWraps, wraps] at cycles
      omega
    · rw [clearanceWraps, grown]
      exact Nat.add_eq_zero_iff.mpr ⟨uncounted inOrder, tick.uncounted inOrder⟩
    · rw [isLonger, List.getLast?_append_cons]
      exact tick.last

/-- The cycle count lags behind the wraps by those to a clearance phase, and there are
none in a plan of which no stage goes round the end: there every state of every run
counts every wrap. -/
theorem cycleNumber_counts_wraps :
    (∀ n, (controllerAt signal ticks n).base.cycleNumber + clearanceWraps signal ticks n =
        wraps signal ticks n) ∧ (StagesInOrder signal →
      ∀ n, (controllerAt signal ticks n).base.cycleNumber = wraps signal ticks n) := by
  refine ⟨fun n => (counts signal ticks n).cycles, fun inOrder n => ?_⟩
  have known := counts signal ticks n
  rw [← known.cycles, known.uncounted inOrder, Nat.add_zero]

/-- The two corridors in turn, from the all-red after the second. -/
def allRedFirstSequence : List String :=
  ["all_red", "ns_green", "ns_yellow", "all_red", "ew_green", "ew_yellow"]

def allRedFirstPlan : Plan where
  phases := sequencePhases allRedFirstSequence
  nonempty := by decide

def allRedFirst : AdaptiveSignal allRedFirstPlan where
  stages := [⟨[1], [2, 3]⟩, ⟨[4], [5, 0]⟩]
  isSplit := by decide
  settings := crossroads.settings
  lanes := crossroads.lanes

/-- Cars standing at the stop lines of the north and of the west. -/
def cornerQueues : LaneTraffic := fun direction lane =>
  if (direction = .north ∨ direction = .west) ∧ lane = 0 then
    [{ onLane := true, position := 99, speed := 0 }]
  else []

/-- The wrap from the yellow of the second corridor to its all-red is not counted. -/
theorem cycleNumber_misses_wrap : adaptivePlanErrors allRedFirstSequence = [] ∧ ¬ ∀ n,
        (controllerAt allRedFirst
          (fun _ => { deltaTime := 20, traffic := cornerQueues }) n).base.cycleNumber =
          wraps allRedFirst (fun _ => { deltaTime := 20, traffic := cornerQueues }) n := by
  refine ⟨by decide, fun claimed => ?_⟩
  exact absurd (claimed 6) (by decide +kernel)

end AdaptiveRun
end UrbanFlow
