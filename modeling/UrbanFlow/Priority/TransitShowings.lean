import UrbanFlow.Priority.TransitMoves

/-!
# Showings of a phase

Phases and cycles together are numbered; in a plan of two phases or more every phase
that is entered has a greater number than those before it, whatever pre-emption and
recovery do, so a number is the name of one showing.
-/

namespace UrbanFlow

open CarrySchedule CyclicOrder PriorityController PhaseDriver

variable {plan : Plan}

/-- The number of the phase shown, counted over the cycles. -/
def showingNumber (cursor : PlanCursor plan) : Nat :=
  cursor.cycleNumber * plan.phases.length + cursor.currentPhaseIdx.val

/-- Entering another phase, with the cycle counted when it comes earlier in the plan,
is a greater number. -/
theorem showingNumber_enter {cursor : PlanCursor plan} {idx : plan.Idx}
    (differs : idx ≠ cursor.currentPhaseIdx) (time : ℚ) : showingNumber cursor < showingNumber
      { currentPhaseIdx := idx
        timeInCurrentState := time
        cycleNumber := if idx < cursor.currentPhaseIdx then cursor.cycleNumber + 1
          else cursor.cycleNumber } := by
  have isShort := cursor.currentPhaseIdx.isLt
  dsimp only [showingNumber]
  by_cases isEarlier : idx < cursor.currentPhaseIdx
  · rw [if_pos isEarlier, Nat.add_mul, Nat.one_mul]
    omega
  · have isLater : cursor.currentPhaseIdx.val < idx.val := by
      have notSame : idx.val ≠ cursor.currentPhaseIdx.val := fun same => differs (Fin.ext same)
      have notLess : ¬ idx.val < cursor.currentPhaseIdx.val := isEarlier
      omega
    rw [if_neg isEarlier]
    omega

theorem showingNumber_pass_le (select : plan.Idx → plan.Idx) (cursor : PlanCursor plan) :
    showingNumber cursor ≤ showingNumber (cursor.pass plan.duration select) := by
  by_cases differs : select cursor.currentPhaseIdx ≠ cursor.currentPhaseIdx
  · exact (showingNumber_enter differs _).le
  · rw [not_not] at differs
    unfold showingNumber Cursor.pass
    dsimp only
    rw [differs, if_neg (lt_irrefl _)]

theorem showingNumber_roll_le (select : plan.Idx → plan.Idx) (fuel : Nat)
    (cursor : PlanCursor plan) :
    showingNumber cursor ≤ showingNumber (cursor.roll plan.duration select fuel) :=
  roll_keeps (fun after => showingNumber cursor ≤ showingNumber after)
    (fun after isLess => isLess.trans (showingNumber_pass_le select after)) fuel le_rfl

/-- In a plan of two phases or more the next phase is another one, also on the way to a
goal. -/
theorem selectToward_ne (isLong : 2 ≤ plan.phases.length) {goal : Option plan.Idx}
    (goalGreen : ∀ idx, goal = some idx → plan.isGreen idx = true) {idx : plan.Idx}
    (offGreen : goal ≠ none → plan.isGreen idx = false) : selectToward goal idx ≠ idx := by
  obtain own | ⟨-, isGoal⟩ := selectToward_cases goal idx
  · rw [own]
    intro same
    have sameVal := congrArg Fin.val same
    rw [Plan.next, ← ahead_one, ahead_val] at sameVal
    have isShort := idx.isLt
    rcases Nat.lt_or_ge (idx.val + 1) plan.phases.length with inside | atEnd
    · rw [Nat.mod_eq_of_lt inside] at sameVal
      omega
    · have isCard : idx.val + 1 = plan.phases.length := by omega
      rw [isCard, Nat.mod_self] at sameVal
      omega
  · intro same
    have isGreen := goalGreen _ isGoal
    rw [same, offGreen (by rw [isGoal]; simp)] at isGreen
    exact Bool.noConfusion isGreen

/-- A tick goes on showing the phase: its clock does not go back. -/
def Continues (before after : PlanCursor plan) : Prop :=
  after.currentPhaseIdx = before.currentPhaseIdx ∧ after.cycleNumber = before.cycleNumber ∧
      before.timeInCurrentState ≤ after.timeInCurrentState

instance (before after : PlanCursor plan) : Decidable (Continues before after) :=
  inferInstanceAs (Decidable (_ ∧ _ ∧ _))

section

variable {dt : ℚ} {goal : Option plan.Idx} {cursor : PlanCursor plan}

/-- An advance that does not use up the phase shown only adds to its clock. -/
theorem advance_of_lt
    (stays : cursor.timeInCurrentState + dt < plan.duration cursor.currentPhaseIdx) :
    advance dt (selectToward goal) cursor =
      { cursor with timeInCurrentState := cursor.timeInCurrentState + dt } := by
  apply roll_of_lt
  exact stays

/-- An advance that uses up the phase shown enters another one. -/
theorem advance_of_le (isLong : 2 ≤ plan.phases.length)
    (goalGreen : ∀ idx, goal = some idx → plan.isGreen idx = true)
    (offGreen : goal ≠ none → plan.isGreen cursor.currentPhaseIdx = false)
    (ends : plan.duration cursor.currentPhaseIdx ≤ cursor.timeInCurrentState + dt) :
    showingNumber cursor < showingNumber (advance dt (selectToward goal) cursor) := by
  have rolls : ∀ {fuel : Nat}, 0 < fuel → showingNumber cursor < showingNumber
        (Cursor.roll plan.duration (selectToward goal) fuel
          { cursor with timeInCurrentState := cursor.timeInCurrentState + dt }) := by
    intro fuel isPositive
    obtain ⟨rest, rfl⟩ := Nat.exists_eq_add_one.mpr isPositive
    rw [roll_succ_of_le rest ends]
    exact lt_of_lt_of_le (showingNumber_enter (selectToward_ne isLong goalGreen offGreen) _)
      (showingNumber_roll_le _ _ _)
  exact rolls plan.nonempty

/-- An advance adds no more than the step to a clock. -/
theorem advance_time_le (timed : plan.Timed) :
    (advance dt (selectToward goal) cursor).timeInCurrentState ≤
      cursor.timeInCurrentState + dt := by
  obtain ⟨k, rolled⟩ := advance_rolled dt (selectToward goal) cursor
  have spends : 0 ≤ spent plan.duration (selectToward goal) cursor.currentPhaseIdx k :=
    spent_nonneg timed _ _
  rw [rolled.time]
  dsimp only
  linarith

end

/-- What a tick does to a showing: numbers do not go down, a tick with the same number
goes on with the showing, a clock gains no more than the step and what transit priority
skips, and a green that is left by the plan has used up its duration with them. -/
structure ShowingTick (dt : ℚ) (before after : PriorityController plan) : Prop where
  number_le : showingNumber before.base ≤ showingNumber after.base
  continues : showingNumber before.base = showingNumber after.base →
    Continues before.base after.base
  time_le : after.base.timeInCurrentState ≤ before.base.timeInCurrentState + dt +
      (after.tspEarlyGreenTotal - before.tspEarlyGreenTotal)
  ends : plan.isGreen before.index = true → showingNumber before.base < showingNumber after.base →
      (after.state ≠ .clearing ∧ after.state ≠ .recovering) →
        plan.duration before.index ≤ before.base.timeInCurrentState + dt +
          (after.tspEarlyGreenTotal - before.tspEarlyGreenTotal)

/-- A cut comes off the time that the green has left. -/
theorem cut_fits {base : PlanCursor plan} {cut rest : ℚ} (isEnough : 1 / 2 ≤ cut)
    (keeps : cut ≤ FixedTimeSignalController.phaseTimeRemaining base - max 0 rest) :
    cut ≤ plan.duration base.currentPhaseIdx - base.timeInCurrentState - max 0 rest := by
  have isKept : 0 ≤ max 0 rest := le_max_left _ _
  unfold FixedTimeSignalController.phaseTimeRemaining at keeps
  rcases le_total (plan.duration base.currentPhaseIdx - base.timeInCurrentState) 0 with
    isOver | isLeft
  · rw [max_eq_left isOver] at keeps
    linarith
  · rwa [max_eq_right isLeft] at keeps

section

variable {dt : ℚ} {before after : PriorityController plan} (positive : 0 < dt)
  (isLong : 2 ≤ plan.phases.length)
  (timed : plan.Timed)
  (nonneg : 0 ≤ before.base.timeInCurrentState)

include positive isLong timed nonneg

theorem PriorityController.PlainMove.showingTick (move : PlainMove dt before after)
    (sameTotal : after.tspEarlyGreenTotal = before.tspEarlyGreenTotal) :
    ShowingTick dt before after := by
  rw [← sub_eq_zero] at sameTotal
  cases move with
  | frozen same =>
    refine ⟨?_, fun _ => ?_, ?_, fun _ isLess => ?_⟩
    · rw [same]
    · rw [same]
      exact ⟨rfl, rfl, le_rfl⟩
    · rw [same, sameTotal]
      linarith
    · rw [same] at isLess
      exact absurd isLess (lt_irrefl _)
  | jumped clearance isGreen notGreen same state =>
    have differs : clearance ≠ before.base.currentPhaseIdx := by
      rintro rfl
      exact Bool.noConfusion (isGreen.symm.trans notGreen)
    have isLess : showingNumber before.base < showingNumber after.base := by
      rw [same]
      exact showingNumber_enter differs 0
    refine ⟨isLess.le, fun isSame => absurd isSame isLess.ne, ?_, fun _ _ notState => ?_⟩
    · rw [same, sameTotal]
      simp only [jump]
      linarith
    · exact absurd state (by
        rintro (isClearing | isRecovering)
        · exact notState.1 isClearing
        · exact notState.2 isRecovering)
  | rolled _ goalGreen offGreen same =>
    refine ⟨?_, fun isSame => ?_, ?_, fun _ isLess _ => ?_⟩
    · rw [same]
      exact showingNumber_roll_le _ _ { before.base with
        timeInCurrentState := before.base.timeInCurrentState + dt }
    · rw [same] at isSame ⊢
      by_cases stays : before.base.timeInCurrentState + dt <
          plan.duration before.base.currentPhaseIdx
      · rw [advance_of_lt stays]
        refine ⟨rfl, rfl, ?_⟩
        dsimp only
        linarith
      · have isLess := advance_of_le isLong goalGreen offGreen (not_lt.mp stays)
        exact absurd isSame isLess.ne
    · rw [same, sameTotal, add_zero]
      exact advance_time_le timed
    · rw [sameTotal, add_zero]
      by_contra stays
      rw [not_le] at stays
      rw [same, advance_of_lt stays] at isLess
      exact absurd isLess (lt_irrefl _)

theorem PriorityController.TransitTick.showingTick {settings : PrioritySettings} {now : ℚ}
    (isStep : settings.dt = dt) (tick : TransitTick settings now before after) :
    ShowingTick dt before after := by
  subst isStep
  cases tick with
  | quiet ledger move =>
    refine move.showingTick positive isLong timed nonneg ?_
    obtain ledger | ledger := ledger
    · exact congrArg TransitLedger.earlyGreenTotal ledger
    · exact congrArg TransitLedger.earlyGreenTotal ledger
  | extended _ _ _ _ _ ledger same =>
    exact PlainMove.showingTick positive isLong timed nonneg (.frozen same)
      (congrArg TransitLedger.earlyGreenTotal ledger)
  | cuts config cut _ _ isLong _ _ _ isEnough keeps ledger same =>
      have isCut : after.tspEarlyGreenTotal - before.tspEarlyGreenTotal = cut := by
        have total : after.tspEarlyGreenTotal = before.tspEarlyGreenTotal + cut :=
          congrArg TransitLedger.earlyGreenTotal ledger
        rw [total, add_sub_cancel_left]
      have isRest : before.base.timeInCurrentState + cut ≤
          plan.duration before.base.currentPhaseIdx := by
        have isKept := le_max_left 0 (config.minGreenS - before.base.timeInCurrentState)
        linarith [cut_fits isEnough keeps]
      have skipped : before.base.timeInCurrentState ≤
          (skipAhead cut before.base).timeInCurrentState ∧
            (skipAhead cut before.base).timeInCurrentState ≤
              before.base.timeInCurrentState + cut := by
        dsimp only [skipAhead]
        rw [max_eq_right (by linarith : (0 : ℚ) ≤ cut)]
        refine ⟨le_min (by linarith) ?_, min_le_left _ _⟩
        exact le_trans (by linarith) (le_max_right _ _)
      set ahead := skipAhead cut before.base
      have sameNumber : showingNumber ahead = showingNumber before.base := rfl
      have advanced (stays : ahead.timeInCurrentState + settings.dt <
          plan.duration before.base.currentPhaseIdx) :
          advance settings.dt plan.next ahead =
            { ahead with timeInCurrentState := ahead.timeInCurrentState + settings.dt } :=
        roll_of_lt _ stays
      refine ⟨?_, fun isSame => ?_, ?_, fun _ isLess _ => ?_⟩
      · rw [same, ← sameNumber]
        exact showingNumber_roll_le _ _
          { ahead with timeInCurrentState := ahead.timeInCurrentState + settings.dt }
      · rw [same] at isSame ⊢
        by_cases stays : ahead.timeInCurrentState + settings.dt <
            plan.duration before.base.currentPhaseIdx
        · rw [advanced stays]
          refine ⟨rfl, rfl, ?_⟩
          dsimp only
          linarith
        · have isLess : showingNumber ahead <
              showingNumber (advance settings.dt (selectToward none) ahead) :=
            advance_of_le isLong nofun (fun present => absurd rfl present) (not_lt.mp stays)
          exact absurd isSame isLess.ne
      · have isShort : (advance settings.dt (selectToward none) ahead).timeInCurrentState ≤
            ahead.timeInCurrentState + settings.dt := advance_time_le timed
        rw [selectToward_none] at isShort
        rw [same, isCut]
        linarith
      · rw [isCut]
        by_contra stays
        rw [not_le] at stays
        have staysHere : ahead.timeInCurrentState + settings.dt <
            plan.duration before.base.currentPhaseIdx := by
          change _ < plan.duration before.index
          linarith
        rw [same, advanced staysHere] at isLess
        exact absurd isLess (lt_irrefl _)

end

end UrbanFlow
