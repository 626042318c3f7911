import UrbanFlow.Adaptive.Controller

/-!
# What one tick of the adaptive controller can do

`Moved` lists the ways a tick changes the phase shown, its clock, the pending
target and the timers that end a green; `update_moved` says the list is
complete. `Passed` says everything the loop over clearance phases does.
-/

namespace UrbanFlow

open CarrySchedule CyclicOrder

variable {plan : Plan}

namespace AdaptiveController

variable {idx green : plan.Idx} {passed : List plan.Idx}

theorem find?_orderAfter (q : plan.Idx → Bool) (absent : (plan.isGreen idx && q idx) = false) :
    (orderAfter idx).find? q = firstFrom (fun other => plan.isGreen other && q other) idx := by
  rw [orderAfter, List.find?_filter, firstFrom_eq_find?_tail absent]
  congr 1
  funext other
  simp

theorem head?_orderAfter (offGreen : plan.isGreen idx = false) :
    (orderAfter idx).head? = firstFrom plan.isGreen idx := by
  have search := find?_orderAfter (fun _ => true)
    (show (plan.isGreen idx && true) = false by rw [offGreen]; rfl)
  simp only [Bool.and_true] at search
  rw [← search]
  cases orderAfter idx with
  | nil | cons first rest => rfl

variable {signal : AdaptiveSignal plan}

theorem idxOf_of_nodup {all rest : List plan.Idx}
    (split : all = passed ++ idx :: rest) (nodup : all.Nodup) : all.idxOf idx = passed.length := by
  rw [split] at nodup ⊢
  rw [List.idxOf_append_of_notMem, List.idxOf_cons_self, Nat.add_zero]
  exact fun member => (List.nodup_append.mp nodup).2.2 _ member _ List.mem_cons_self rfl

theorem afterClearance_following {s : AdaptiveController plan} {rest : List plan.Idx}
    {following : plan.Idx}
    (clearances : (signal.stageOf s.index).clearances = passed ++ s.index :: following :: rest)
    (nodup : (signal.stageOf s.index).clearances.Nodup) :
    (afterClearance signal s).index = following ∧ (afterClearance signal s).time = s.time ∧
      (afterClearance signal s).target = s.target := by
  have position := idxOf_of_nodup clearances nodup
  have found : (passed ++ s.index :: following :: rest)[passed.length + 1]? =
      some following := by simp
  dsimp only [afterClearance]
  rw [position, clearances, found]
  exact ⟨rfl, rfl, rfl⟩

theorem afterClearance_last {s : AdaptiveController plan} {goal : plan.Idx}
    (clearances : (signal.stageOf s.index).clearances = passed ++ [s.index])
    (nodup : (signal.stageOf s.index).clearances.Nodup)
    (isGoal : s.target.or (orderAfter s.index).head? = some goal) :
    (afterClearance signal s).index = goal ∧ (afterClearance signal s).time = s.time ∧
      (afterClearance signal s).target = none ∧ (afterClearance signal s).maxTimerStart = none := by
  have position := idxOf_of_nodup clearances nodup
  dsimp only [afterClearance]
  rw [position, clearances, isGoal]
  simp only [List.getElem?_eq_none (by simp : (passed ++ [s.index]).length ≤ passed.length + 1)]
  exact ⟨rfl, rfl, rfl, rfl⟩

/-- Total duration of some phases. -/
def total (phases : List plan.Idx) : ℚ := (phases.map plan.duration).sum

@[simp] theorem total_nil : total ([] : List plan.Idx) = 0 := rfl

@[simp] theorem total_cons (idx : plan.Idx) (rest : List plan.Idx) :
    total (idx :: rest) = plan.duration idx + total rest := by
  simp [total]

/-- What the loop over clearance phases does, from the first of `remaining`: it
passes the phases whose time is used up, `passed`, and stops in the next one, or
turns green for its target when there is none. -/
inductive Passed
    (s after : AdaptiveController plan)
    (remaining : List plan.Idx) : Prop
  | within (passed rest : List plan.Idx) (split : remaining = passed ++ after.index :: rest)
      (time : after.time = s.time - total passed)
      (inside : after.time < plan.duration after.index)
      (paid : total passed ≤ s.time ∨ passed = [])
      (target : after.target = s.target)
  | served (isGreen : plan.isGreen after.index = true)
      (goal : ∀ idx, s.target = some idx → after.index = idx)
      (time : after.time = s.time - total remaining)
      (paid : total remaining ≤ s.time)
      (target : after.target = none)
      (timer : after.maxTimerStart = none)

/-- A green ends the loop, whatever is left of its fuel. -/
theorem passClearances_green (fuel : Nat) {s : AdaptiveController plan}
    (isGreen : plan.isGreen s.index = true) : passClearances signal fuel s = s := by
  cases fuel with
  | zero => rfl
  | succ =>
    rw [passClearances, if_neg]
    rw [isGreen]
    exact fun impossible => Bool.noConfusion impossible.1

theorem exists_goal {s : AdaptiveController plan} (isGreen : plan.isGreen green = true)
    (targetGreen : ∀ idx, s.target = some idx → plan.isGreen idx = true)
    (offGreen : plan.isGreen s.index = false) :
    ∃ goal, s.target.or (orderAfter s.index).head? = some goal ∧
      plan.isGreen goal = true ∧ ∀ idx, s.target = some idx → goal = idx := by
  cases isTarget : s.target with
  | none =>
    rw [head?_orderAfter offGreen, Option.none_or]
    obtain ⟨goal, found⟩ := firstFrom_isSome s.index isGreen
    exact ⟨goal, found, firstFrom_some found, fun _ => nofun⟩
  | some target =>
    exact ⟨target, rfl, targetGreen target isTarget, fun idx same => Option.some.inj same⟩

theorem Passed.cons {s following after : AdaptiveController plan} {remaining : List plan.Idx}
    (due : plan.duration idx ≤ s.time) (time : following.time = s.time - plan.duration idx)
    (target : following.target = s.target) (rest : Passed following after remaining) :
    Passed s after (idx :: remaining) := by
  cases rest with
  | within passed rest split timeAfter inside paid targetAfter =>
    refine .within (idx :: passed) rest ?_ ?_ inside (.inl ?_) (targetAfter.trans target)
    · rw [split, List.cons_append]
    · rw [timeAfter, time, total_cons]
      ring
    · rw [total_cons]
      rcases paid with paid | rfl
      · linarith
      · rw [total_nil]
        linarith
  | served isGreen goal timeAfter _ targetAfter timerAfter =>
    refine .served isGreen ?_ ?_ ?_ targetAfter timerAfter
    · rw [← target]
      exact goal
    · rw [timeAfter, time, total_cons]
      ring
    · rw [total_cons]
      linarith

theorem passClearances_passed (isGreen : plan.isGreen green = true)
    {stage : Stage plan.phases.length} (isStage : stage ∈ signal.stages) {fuel : Nat}
    {s : AdaptiveController plan}
    (targetGreen : ∀ idx, s.target = some idx → plan.isGreen idx = true)
    {before rest : List plan.Idx} (clearances : stage.clearances = before ++ s.index :: rest)
    (enough : rest.length < fuel) : Passed s (passClearances signal fuel s) (s.index :: rest) := by
  have well := signal.wellFormed isStage
  induction rest generalizing fuel s before with
  | nil =>
    obtain ⟨fuel, rfl⟩ := Nat.exists_eq_succ_of_ne_zero (Nat.pos_iff_ne_zero.mp enough)
    have member : s.index ∈ stage.clearances := by simp [clearances]
    have offGreen := well.clearances s.index member
    rw [passClearances]
    by_cases due : plan.duration s.index ≤ s.time
    · rw [if_pos ⟨offGreen, due⟩]
      have here := signal.stageOf_eq isStage (.inr member)
      obtain ⟨goal, isGoal, goalGreen, isTarget⟩ := exists_goal isGreen targetGreen offGreen
      obtain ⟨index, time, target, timer⟩ := afterClearance_last
        (s := s.setTime (s.time - plan.duration s.index))
        (by rw [← here] at clearances; exact clearances)
        (by rw [← here] at well; exact well.nodup) isGoal
      rw [passClearances_green fuel (by rw [index]; exact goalGreen)]
      refine .served (by rw [index]; exact goalGreen) ?_ ?_ ?_ target timer
      · intro idx same
        rw [index]
        exact isTarget idx same
      · rw [time, total_cons, total_nil, add_zero]
        rfl
      · rw [total_cons, total_nil, add_zero]
        exact due
    · rw [if_neg fun both => due both.2]
      exact .within [] [] rfl (by simp) (not_le.mp due) (.inr rfl) rfl
  | cons following rest ih =>
    obtain ⟨fuel, rfl⟩ := Nat.exists_eq_succ_of_ne_zero
      (Nat.pos_iff_ne_zero.mp (Nat.zero_lt_of_lt enough))
    have member : s.index ∈ stage.clearances := by simp [clearances]
    have offGreen := well.clearances s.index member
    rw [passClearances]
    by_cases due : plan.duration s.index ≤ s.time
    · rw [if_pos ⟨offGreen, due⟩]
      have here := signal.stageOf_eq isStage (.inr member)
      obtain ⟨index, time, target⟩ := afterClearance_following
        (s := s.setTime (s.time - plan.duration s.index))
        (by rw [← here] at clearances; exact clearances)
        (by rw [← here] at well; exact well.nodup)
      generalize afterClearance signal (s.setTime (s.time - plan.duration s.index)) = next
          at index time target ⊢
      have following_split : stage.clearances = (before ++ [s.index]) ++ next.index :: rest := by
        rw [index, clearances, List.append_assoc]
        rfl
      have onwards : Passed next (passClearances signal fuel next) (next.index :: rest) :=
        ih (by rw [target]; exact targetGreen) following_split (Nat.lt_of_succ_lt_succ enough)
      rw [index] at onwards
      exact onwards.cons due time target
    · rw [if_neg fun both => due both.2]
      exact .within [] (following :: rest) rfl (by simp) (not_le.mp due) (.inr rfl) rfl

/-- The calls while the phase shown is observed. -/
def calling (signal : AdaptiveSignal plan) (traffic : LaneTraffic)
    (s : AdaptiveController plan) : List (plan.Idx × Nat) :=
  waiting signal (observe signal traffic s.index)

/-- The maximum-green timer's start after a tick with these calls. -/
def timerStart (calling : List (plan.Idx × Nat)) (s : AdaptiveController plan) : Option ℚ :=
  if calling ≠ [] ∧ s.maxTimerStart = none then some (max 0 s.time)
  else s.maxTimerStart

/-- Tick effects on the phase shown, its clock, the target and the timers. -/
inductive Moved
    (signal : AdaptiveSignal plan)
    (dt : ℚ)
    (calling : List (plan.Idx × Nat))
    (s after : AdaptiveController plan) : Prop
  /-- The green shown goes on. -/
  | goesOn (isGreen : plan.isGreen s.index = true) (index : after.index = s.index)
      (time : after.time = s.time + dt)
      (target : after.target = s.target)
      (timer : after.maxTimerStart = timerStart calling s)
      (kept : s.time + dt < signal.settings.minGreen ∨ calling = [] ∨
        s.time + dt - (timerStart calling s).getD 0 < signal.settings.maxGreen)
  /-- The green shown ends, and a later green of its stage is shown. -/
  | switches (goal : plan.Idx) (isGreen : plan.isGreen s.index = true)
      (old : signal.settings.minGreen ≤ s.time + dt)
      (found : (orderAfter s.index).find? (· ∈ calling.map Prod.fst) = some goal)
      (later : goal ∈ laterInStage signal s.index)
      (index : after.index = goal)
      (time : after.time = 0)
      (target : after.target = s.target)
      (timer : after.maxTimerStart = none)
  /-- The green shown ends by its stage's clearance, for another stage. -/
  | clears (goal : plan.Idx) (isGreen : plan.isGreen s.index = true)
      (old : signal.settings.minGreen ≤ s.time + dt)
      (found : (orderAfter s.index).find? (· ∈ calling.map Prod.fst) = some goal)
      (elsewhere : goal ∉ laterInStage signal s.index)
      (index : after.index = (signal.stageOf s.index).clearances.headD s.index)
      (time : after.time = 0)
      (target : after.target = some goal)
  /-- A clearance runs on, and what is due of it is passed. -/
  | clearing (ticked : AdaptiveController plan) (offGreen : plan.isGreen s.index = false)
      (index : ticked.index = s.index)
      (time : ticked.time = s.time + dt)
      (target : ticked.target = s.target)
      (passed : after = passClearances signal plan.phases.length ticked ∨
        after.index = ticked.index ∧ after.time = ticked.time ∧ after.target = ticked.target ∧
          ticked.time < plan.duration ticked.index)

section

variable {calling : List (plan.Idx × Nat)} {s : AdaptiveController plan}

theorem greenOver_some {reason : GreenDecision}
    (isOver : greenOver signal calling s = some reason) :
    signal.settings.minGreen ≤ s.time ∧ calling ≠ [] := by
  unfold greenOver at isOver
  split at isOver
  · exact nomatch isOver
  · next due =>
      rw [not_or, not_lt] at due
      exact due

theorem greenOver_none (goesOn : greenOver signal calling s = none) :
    s.time < signal.settings.minGreen ∨ calling = [] ∨
      s.time - s.maxTimerStart.getD 0 < signal.settings.maxGreen := by
  unfold greenOver at goesOn
  split at goesOn
  · next early => exact early.imp_right .inl
  · split at goesOn
    · exact nomatch goesOn
    · split at goesOn
      · exact nomatch goesOn
      · next inTime => exact .inr (.inr (not_le.mp inTime))

end

section

variable {traffic : LaneTraffic} {s : AdaptiveController plan}

theorem mem_calling {idx : plan.Idx} :
    idx ∈ (calling signal traffic s).map Prod.fst ↔ plan.isGreen idx = true ∧ idx ≠ s.index ∧
        signal.settings.demandThreshold ≤ StopLineDetection.calls plan
          signal.lanes signal.settings.detectionDistance traffic s.index idx := by
  rw [List.mem_map]
  constructor
  · rintro ⟨⟨_, _⟩, member, rfl⟩
    rw [calling, waiting, List.mem_filter, decide_eq_true_eq] at member
    obtain ⟨isGreen, different, rfl⟩ := StopLineDetection.mem_calls.mp member.1
    exact ⟨isGreen, different, member.2⟩
  · rintro ⟨isGreen, different, enough⟩
    refine ⟨(idx, StopLineDetection.calls plan signal.lanes
      signal.settings.detectionDistance traffic s.index idx), ?_, rfl⟩
    rw [calling, waiting, List.mem_filter, decide_eq_true_eq]
    exact ⟨StopLineDetection.mem_calls.mpr ⟨isGreen, different, rfl⟩, enough⟩

theorem mem_orderAfter {idx other : plan.Idx} (isGreen : plan.isGreen other = true)
    (different : other ≠ idx) : other ∈ orderAfter idx := by
  have onWalk := mem_walk idx other
  rw [walk_eq_cons, List.mem_cons] at onWalk
  exact List.mem_filter.mpr ⟨onWalk.resolve_left different, isGreen⟩

/-- A phase with calls is found among the greens after the current one. -/
theorem find_waiting (called : calling signal traffic s ≠ []) : ∃ goal, (orderAfter s.index).find?
      (· ∈ (calling signal traffic s).map Prod.fst) = some goal := by
  obtain ⟨call, member⟩ := List.exists_mem_of_ne_nil _ called
  have isCalled := List.mem_map_of_mem (f := Prod.fst) member
  obtain ⟨isGreen, different, _⟩ := mem_calling.mp isCalled
  refine Option.isSome_iff_exists.mp (List.find?_isSome.mpr
    ⟨call.1, mem_orderAfter isGreen different, ?_⟩)
  exact decide_eq_true isCalled

end

theorem goOn_same (signal : AdaptiveSignal plan) (dt : ℚ) (observation : Observation plan)
    (s : AdaptiveController plan) : (s.goOn signal dt observation).base = s.base ∧
      (s.goOn signal dt observation).target = s.target ∧
      (s.goOn signal dt observation).maxTimerStart = s.maxTimerStart := by
  unfold goOn
  split
  · exact ⟨rfl, rfl, rfl⟩
  · split
    · exact ⟨rfl, rfl, rfl⟩
    · exact ⟨rfl, rfl, rfl⟩

theorem terminate_moved {dt : ℚ} {traffic : LaneTraffic} {s observed : AdaptiveController plan}
    (reason : GreenDecision) (isGreen : plan.isGreen s.index = true)
    (index : observed.index = s.index) (target : observed.target = s.target)
    (old : signal.settings.minGreen ≤ s.time + dt) (called : calling signal traffic s ≠ []) :
    Moved signal dt (calling signal traffic s) s
      (terminate signal reason (calling signal traffic s) observed) := by
  obtain ⟨goal, found⟩ := find_waiting called
  unfold terminate
  rw [index, found]
  dsimp only
  split
  · next later => exact .switches goal isGreen old found later rfl rfl target rfl
  · next elsewhere => exact .clears goal isGreen old found elsewhere rfl rfl rfl

section

variable (signal : AdaptiveSignal plan) (dt : ℚ) (traffic : LaneTraffic)
  (s : AdaptiveController plan)

theorem update_moved : Moved signal dt (calling signal traffic s) s
      (s.update signal dt traffic) := by
  dsimp only [update]
  generalize ticks : ({ s with
      clock := s.clock + dt
      base :=
        { s.base with
          timeInCurrentState := s.base.timeInCurrentState + dt } } :
      AdaptiveController plan) = ticked
  have index : ticked.index = s.index := by rw [← ticks]; rfl
  have time : ticked.time = s.time + dt := by rw [← ticks]; rfl
  have target : ticked.target = s.target := by rw [← ticks]
  have timer : ticked.maxTimerStart = s.maxTimerStart := by rw [← ticks]
  rw [index]
  split
  · next isGreen =>
      have observedTimer : (ticked.observeGreen signal dt
          (observe signal traffic s.index)).maxTimerStart =
            timerStart (calling signal traffic s) s := by
        unfold observeGreen timerStart calling
        rw [timer, time, add_sub_cancel_right]
      dsimp only [updateGreen]
      split
      · next reason isOver =>
          obtain ⟨old, called⟩ := greenOver_some isOver
          change _ ≤ ticked.time at old
          rw [time] at old
          exact terminate_moved reason isGreen index target old called
      · next goesOn =>
          have kept := greenOver_none goesOn
          rw [observedTimer] at kept
          change ticked.time < _ ∨ calling signal traffic s = [] ∨ ticked.time - _ < _ at kept
          rw [time] at kept
          obtain ⟨base, sameTarget, sameTimer⟩ :=
            goOn_same signal dt (observe signal traffic s.index)
              (ticked.observeGreen signal dt (observe signal traffic s.index))
          exact .goesOn isGreen ((congrArg Cursor.currentPhaseIdx base).trans index)
            ((congrArg Cursor.timeInCurrentState base).trans time)
            (sameTarget.trans target) (sameTimer.trans observedTimer) kept
  · next notGreen =>
      have offGreen := eq_false_of_ne_true notGreen
      split
      · exact .clearing ticked offGreen index time target (.inl rfl)
      · next short =>
          refine .clearing ticked offGreen index time target
            (.inr ⟨index.symm, time.symm, target.symm, ?_⟩)
          rw [index]
          exact not_le.mp short

/-- The state in which a tick decides whether the green shown is over. -/
def observed : AdaptiveController plan :=
  ({ s with
      clock := s.clock + dt
      base :=
        { s.base with
          timeInCurrentState := s.base.timeInCurrentState + dt } } :
    AdaptiveController plan).observeGreen signal dt (observe signal traffic s.index)

end

theorem update_not_over {dt : ℚ} {traffic : LaneTraffic} {s : AdaptiveController plan}
    (isGreen : plan.isGreen s.index = true) (goesOn : greenOver signal (calling signal traffic s)
      (observed signal dt traffic s) = none) : (s.update signal dt traffic).index = s.index := by
  have decides : s.update signal dt traffic = ({ s with
          clock := s.clock + dt
          base :=
            { s.base with
              timeInCurrentState := s.base.timeInCurrentState + dt } } :
        AdaptiveController plan).updateGreen signal dt
          (observe signal traffic s.index) := if_pos isGreen
  rw [decides]
  dsimp only [updateGreen]
  split
  · next reason isOver => exact absurd (goesOn.symm.trans isOver) nofun
  · have same := (goOn_same signal dt (observe signal traffic s.index)
      (observed signal dt traffic s)).1
    exact (congrArg Cursor.currentPhaseIdx same).trans rfl

end AdaptiveController
end UrbanFlow
