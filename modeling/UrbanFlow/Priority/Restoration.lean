import Mathlib.Algebra.Order.Archimedean.Basic
import UrbanFlow.Priority.MinimumGreen

/-!
# Restoring the plan after a hold

A pre-emption that reaches its hold releases it in time, runs the plan's
clearance out and shows one green first: the one it planned to resume at. The
planned green is chosen by directions, so it is the interrupted phase itself
only when that phase is the held one or serves other directions.
-/

namespace UrbanFlow

open CarrySchedule CyclicOrder PriorityController PhaseDriver FixedTimeSignalController

variable {plan : Plan}

/-! ## Time to the next green -/

/-- What is left of the plan before its next green, from the start of `idx`. -/
def Plan.toGreen (plan : Plan) (idx : plan.Idx) : ℚ :=
  spent plan.duration plan.next idx (gap plan.isGreen idx)

theorem Plan.toGreen_next {idx green : plan.Idx} (offGreen : plan.isGreen idx = false)
    (isGreen : plan.isGreen green = true) :
    plan.toGreen idx = plan.duration idx + plan.toGreen (plan.next idx) :=
  Plan.spent_gap offGreen isGreen

/-- Off green all the way, a redirected walk is a walk of the plan, and what it
spends is what it takes off the time to the next green. -/
theorem toGreen_walk {goal : Option plan.Idx}
    (goalGreen : ∀ idx, goal = some idx → plan.isGreen idx = true) {green : plan.Idx}
    (isGreen : plan.isGreen green = true) (idx : plan.Idx) (k : Nat)
    (offGreen : ∀ m, m ≤ k → plan.isGreen ((selectToward goal)^[m] idx) = false) :
    plan.toGreen idx = spent plan.duration (selectToward goal) idx k +
        plan.toGreen ((selectToward goal)^[k] idx) := by
  induction k with
  | zero => simp
  | succ k ih =>
    have here := offGreen k (Nat.le_succ k)
    have there := offGreen (k + 1) (le_refl _)
    rw [Function.iterate_succ_apply'] at there ⊢
    rw [ih fun m small => offGreen m (by omega), spent_succ, Plan.toGreen_next here isGreen,
      selectToward_notGreen goalGreen there]
    ring

theorem Plan.toGreen_nonneg (timed : plan.Timed) (idx : plan.Idx) : 0 ≤ plan.toGreen idx :=
  spent_nonneg timed idx _

theorem time_le_toGreen (timed : plan.Timed) {cursor : PlanCursor plan} (well : WellTimed cursor)
    {green : plan.Idx} (isGreen : plan.isGreen green = true)
    (offGreen : plan.isGreen cursor.currentPhaseIdx = false) :
    cursor.timeInCurrentState ≤ plan.toGreen cursor.currentPhaseIdx := by
  have rest := Plan.toGreen_nonneg timed (plan.next cursor.currentPhaseIdx)
  rw [Plan.toGreen_next offGreen isGreen]
  rcases well.within with within | within
  · linarith
  · linarith [timed cursor.currentPhaseIdx]

/-- Running the clearance on uses the time to the next green up by one time
step. -/
theorem advance_toGreen {dt : ℚ} {goal : Option plan.Idx} {cursor : PlanCursor plan}
    {green : plan.Idx} (timed : plan.Timed) (positive : 0 < dt) (short : plan.ShortTick dt)
    (goalGreen : ∀ idx, goal = some idx → plan.isGreen idx = true)
    (isGreen : plan.isGreen green = true) (well : WellTimed cursor)
    (offGreen : plan.isGreen cursor.currentPhaseIdx = false)
    (onWay : plan.isGreen (advance dt (selectToward goal) cursor).currentPhaseIdx = false) :
    WellTimed (advance dt (selectToward goal) cursor) ∧
      plan.toGreen (advance dt (selectToward goal) cursor).currentPhaseIdx -
          (advance dt (selectToward goal) cursor).timeInCurrentState =
        plan.toGreen cursor.currentPhaseIdx - cursor.timeInCurrentState - dt := by
  obtain ⟨k, rolled⟩ := advance_rolled dt (selectToward goal) cursor
  have wellAfter := roll_wellTimed timed positive short (.inl ⟨green, isGreen⟩)
    goalGreen (fun _ => offGreen) well rolled
  refine ⟨wellAfter, ?_⟩
  have walked := toGreen_walk goalGreen isGreen cursor.currentPhaseIdx k (by
      intro m small
      rcases Nat.eq_or_lt_of_le small with last | passed
      · rw [last, ← rolled.index]
        exact onWay
      · cases m with
        | zero => exact offGreen
        | succ => exact roll_passed_notGreen timed short well rolled (by omega) passed)
  rw [rolled.time, rolled.index, walked]
  dsimp only
  ring

/-! ## One tick -/

section

variable {config : PreemptionConfig} {dt now age : ℚ} {c after : SignalCore plan}

variable (branch : Branch config dt now age c after)

include branch

theorem Branch.keeps :
    after.goal = c.goal ∧ after.resume = c.resume ∧ after.preemptionCount = c.preemptionCount := by
  cases branch <;> exact ⟨rfl, rfl, rfl⟩

/-- A hold that goes on changes nothing and is in time. -/
theorem Branch.holds_on (state : c.state = .hold)
    (aimed : c.goal ≠ none) (still : after.state = .hold) :
    after = c ∧ now - c.holdStarted < config.maxHoldS := by
  cases branch with
  | keepHold _ inTime => exact ⟨rfl, inTime aimed⟩
  | releaseHold goal clearance other isGoal due found | dropHold goal other isGoal missing =>
    simp at still
  | _ => simp_all

theorem Branch.releases {goal : plan.Idx}
    (state : c.state = .hold) (isGoal : c.goal = some goal)
    (hasClearance : clearanceStart plan goal ≠ none) (ended : after.state ≠ .hold) :
    ∃ clearance, clearanceStart plan goal = some clearance ∧
      after.state = .recovering ∧ after.base = jump clearance c.base := by
  cases branch with
  | keepHold => exact absurd state ended
  | releaseHold _ clearance _ isGoal' _ found =>
    rw [isGoal] at isGoal'
    cases isGoal'
    exact ⟨clearance, found, rfl, rfl⟩
  | dropHold _ _ isGoal' missing =>
    rw [isGoal] at isGoal'
    cases isGoal'
    exact absurd missing hasClearance
  | _ => simp_all

theorem Branch.recovers
    (state : c.state = .recovering) : after.base = advance dt (selectToward c.resume) c.base ∧
      (after.state = .recovering ∧ plan.isGreen after.index = false ∨
        after.state = .normal ∧ plan.isGreen after.index = true ∧
          after.lockout = config.minRecoveryS) := by
  cases branch with
  | recover _ onWay => exact ⟨rfl, .inl ⟨state, onWay⟩⟩
  | restore _ arrived => exact ⟨rfl, .inr ⟨rfl, arrived, rfl⟩⟩
  | _ => simp_all

end

/-! ## The property -/

namespace PriorityRun

section Property

variable (settings : PrioritySettings) (config : PreemptionConfig) (base : PlanCursor plan)
  (ticks : Nat → Tick)

/-- A pre-emption begins on tick `n + 1`. -/
def BeginsAt (n : Nat) : Prop := (controllerAt settings base ticks (n + 1)).preemptionCount ≠
    (controllerAt settings base ticks n).preemptionCount

instance (n : Nat) : Decidable (BeginsAt settings base ticks n) :=
  inferInstanceAs (Decidable (_ ≠ _))

/-- The request a tick would take up. -/
def requestAt (n : Nat) : Option (EmergencyView × plan.Idx) :=
  request config (controllerAt settings base ticks n).base
    ((ticks n).emergencies.filter fun ev => ev.state != .exited)

/-- The pre-emption begun on tick `b + 1` reaches its hold at tick `h`. -/
structure ReachesHold (b h : Nat) : Prop where
  begins : BeginsAt settings base ticks b
  ordered : b < h
  clearing : ∀ k, b < k → k < h → (controllerAt settings base ticks k).state = .clearingMinGreen ∨
      (controllerAt settings base ticks k).state = .clearing
  hold : (controllerAt settings base ticks h).state = .hold

section

variable (plan : Plan) (cursor : PlanCursor plan)

/-- The first green to show after a hold: the one interrupted, or the next green
of other directions when the interrupted one is the one held. -/
def ResumesAt (held first : plan.Idx) : Prop :=
  ∀ idx, interrupted cursor = some idx → (idx ≠ held → first = idx) ∧
      (idx = held → ∀ other, nextGreen plan held
        (some (plan.directions held)) = some other → first = other)

/-- When the request is for another green than the one interrupted, it is for
other directions. -/
def KeepsInterrupted (target : plan.Idx) : Prop :=
  ∀ idx, interrupted cursor = some idx → idx = target ∨ plan.directions idx ≠ plan.directions target

end

instance (cursor : PlanCursor plan) (target : plan.Idx) :
    Decidable (KeepsInterrupted plan cursor target) :=
  inferInstanceAs (Decidable (∀ idx : plan.Idx, interrupted cursor = some idx →
    idx = target ∨ plan.directions idx ≠ plan.directions target))

/-- The pre-emption begun on tick `b + 1` holds from tick `h` to tick `r`, and
the plan is restored at tick `g`. -/
structure Restored (b h r g : Nat) : Prop where
  held : ∀ k, h ≤ k → k < r → (controllerAt settings base ticks k).state = .hold
  released : (controllerAt settings base ticks r).state ≠ .hold
  bounded : timeAt settings r - timeAt settings h < config.maxHoldS + settings.dt
  later : h < r ∧ r ≤ g
  cleared : ∀ k, r ≤ k → k < g → plan.isGreen (shown settings base ticks k) = false
  isGreen : plan.isGreen (shown settings base ticks g) = true
  resumes : ResumesAt plan (controllerAt settings base ticks b).base
    (shown settings base ticks h) (shown settings base ticks g)
  recovers : ∀ n, g ≤ n → BeginsAt settings base ticks n →
    config.minRecoveryS ≤ timeAt settings (n + 1) - timeAt settings g

end Property

section Runs

variable {settings : PrioritySettings} {config : PreemptionConfig} {base : PlanCursor plan}
  {ticks : Nat → Tick}

/-! ## Reading a run -/

section

variable (configured : settings.preemption = some config)

include configured

/-- A tick inside a pre-emption takes a branch. -/
theorem busy_branch {n : Nat} (busy : (controllerAt settings base ticks n).state ≠ .normal) :
    Branch config settings.dt (timeAt settings (n + 1))
      ((controllerAt settings base ticks n).greenAge (timeAt settings (n + 1)))
      (controllerAt settings base ticks n).core
      (controllerAt settings base ticks (n + 1)).core := by
  have tick := ticked settings base ticks n
  generalize (controllerAt settings base ticks (n + 1)).core = after at tick ⊢
  cases tick with
  | idle _ _ isNormal => exact absurd isNormal busy
  | begins other ev target _ isConfig enabled isNormal unlocked requested
      branch => exact absurd isNormal busy
  | busy _ _ isConfig _ _ branch =>
    rw [configured] at isConfig
    cases isConfig
    exact branch

theorem begins_branch {n : Nat} (begins : BeginsAt settings base ticks n) :
    (controllerAt settings base ticks n).state = .normal ∧
      (controllerAt settings base ticks n).lockout ≤ 0 ∧
      ∃ ev target, requestAt settings config base ticks n = some (ev, target) ∧
        Branch config settings.dt (timeAt settings (n + 1))
          ((controllerAt settings base ticks n).greenAge (timeAt settings (n + 1)))
          ((controllerAt settings base ticks n).core.begun (timeAt settings (n + 1)) target)
          (controllerAt settings base ticks (n + 1)).core := by
  have tick := ticked settings base ticks n
  change (controllerAt settings base ticks (n + 1)).core.preemptionCount ≠ _ at begins
  generalize (controllerAt settings base ticks (n + 1)).core = after at tick begins ⊢
  cases tick with
  | idle => exact absurd rfl begins
  | begins _ ev target _ isConfig _ isNormal unlocked requested branch =>
    rw [configured] at isConfig
    cases isConfig
    exact ⟨isNormal, unlocked, ev, target, requested, branch⟩
  | busy _ _ _ _ _ branch => exact absurd branch.keeps.2.2 begins

/-- A pre-emption keeps its goal and its resume phase until it is over. -/
theorem remembers {b : Nat} {ev : EmergencyView} {target : plan.Idx}
    (begins : BeginsAt settings base ticks b)
    (requested : requestAt settings config base ticks b = some (ev, target)) (k : Nat)
    (later : b < k)
    (busy : ∀ j, b < j → j < k → (controllerAt settings base ticks j).state ≠ .normal) :
    (controllerAt settings base ticks k).goal = some target ∧
      (controllerAt settings base ticks k).resume =
        resumeTarget (controllerAt settings base ticks b).base target := by
  induction k with
  | zero => exact absurd later (Nat.not_lt_zero b)
  | succ k ih =>
    rcases Nat.eq_or_lt_of_le (Nat.le_of_lt_succ later) with rfl | inside
    · obtain ⟨_, _, _, _, isRequested, branch⟩ := begins_branch configured begins
      rw [requested] at isRequested
      cases isRequested
      exact ⟨branch.keeps.1, branch.keeps.2.1⟩
    · obtain ⟨goal, resume⟩ := ih inside fun j late early => busy j late (by omega)
      have branch := busy_branch configured (busy k inside (Nat.lt_succ_self k))
      exact ⟨branch.keeps.1.trans goal, branch.keeps.2.1.trans resume⟩

end

/-! ## The hold -/

theorem hold_starts (configured : settings.preemption = some config) {b h : Nat}
    (reached : ReachesHold settings base ticks b h) :
    (controllerAt settings base ticks h).holdStarted = timeAt settings h := by
  obtain ⟨d, rfl⟩ := Nat.exists_eq_add_of_lt reached.ordered
  cases d with
  | zero =>
    obtain ⟨_, _, _, _, _, branch⟩ := begins_branch configured reached.begins
    rcases branch.holds reached.hold with now | ⟨holding, same, _⟩
    · exact now
    · rw [SignalCore.begun_hold holding] at same
      exact same
  | succ d =>
    have before := reached.clearing (b + d + 1) (by omega) (by omega)
    have busy : (controllerAt settings base ticks (b + d + 1)).state ≠ .normal := by
      rcases before with state | state <;> rw [state] <;> nofun
    have branch := busy_branch configured busy
    rcases branch.holds reached.hold with now | ⟨holding, _, _⟩
    · exact now
    · rw [core_state] at holding
      rcases before with state | state <;> simp [state] at holding

theorem hold_lasts (configured : settings.preemption = some config) {h : Nat}
    (starts : (controllerAt settings base ticks h).holdStarted = timeAt settings h) (d : Nat)
    (held : ∀ k, h ≤ k → k ≤ h + d → (controllerAt settings base ticks k).state = .hold) :
    (controllerAt settings base ticks (h + d)).core = (controllerAt settings base ticks h).core ∧
      (0 < d → timeAt settings (h + d) - timeAt settings h < config.maxHoldS) := by
  induction d with
  | zero => exact ⟨rfl, fun impossible => absurd impossible (lt_irrefl 0)⟩
  | succ d ih =>
    obtain ⟨same, _⟩ := ih fun k late early => held k late (by omega)
    have here := held (h + d) (by omega) (by omega)
    have busy : (controllerAt settings base ticks (h + d)).state ≠ .normal := by
      rw [here]
      nofun
    have branch := busy_branch configured busy
    have aimed := (sound settings base ticks (h + d)).core.aimed busy
    obtain ⟨stays, inTime⟩ := branch.holds_on here aimed (held (h + d + 1) (by omega) (by omega))
    rw [same] at stays inTime
    refine ⟨stays, fun _ => ?_⟩
    change timeAt settings (h + d + 1) -
      (controllerAt settings base ticks h).holdStarted < _ at inTime
    rw [starts] at inTime
    exact inTime

theorem exists_time_above (positive : 0 < settings.dt) (bound : ℚ) :
    ∃ d : Nat, bound < d * settings.dt := by
  obtain ⟨d, above⟩ := exists_nat_gt (bound / settings.dt)
  exact ⟨d, (div_lt_iff₀ positive).mp above⟩

theorem hold_ends (configured : settings.preemption = some config)
    (valid : config.validate = .ok ()) (positive : 0 < settings.dt) {h : Nat}
    (state : (controllerAt settings base ticks h).state = .hold)
    (starts : (controllerAt settings base ticks h).holdStarted = timeAt settings h) :
    ∃ d, (∀ k, h ≤ k → k ≤ h + d → (controllerAt settings base ticks k).state = .hold) ∧
      (controllerAt settings base ticks (h + d + 1)).state ≠ .hold ∧
      timeAt settings (h + d + 1) - timeAt settings h < config.maxHoldS + settings.dt := by
  obtain ⟨_, _, longHold, _⟩ := PreemptionConfig.validate_bounds valid
  have ends : ∃ d, (controllerAt settings base ticks (h + d + 1)).state ≠ .hold := by
    by_contra never
    push Not at never
    obtain ⟨d, above⟩ := exists_time_above positive config.maxHoldS
    have lasts := (hold_lasts configured starts (d + 1) (by
      intro k late early
      rcases Nat.eq_or_lt_of_le late with rfl | inside
      · exact state
      · obtain ⟨j, rfl⟩ := Nat.exists_eq_add_of_lt inside
        exact never j)).2 (Nat.succ_pos d)
    unfold timeAt at lasts
    push_cast at lasts
    linarith
  classical
  have held : ∀ k, h ≤ k → k ≤ h + Nat.find ends →
      (controllerAt settings base ticks k).state = .hold := by
    intro k late early
    rcases Nat.eq_or_lt_of_le late with rfl | inside
    · exact state
    · obtain ⟨j, rfl⟩ := Nat.exists_eq_add_of_lt inside
      exact not_not.mp (Nat.find_min ends (m := j) (by omega))
  refine ⟨Nat.find ends, held, Nat.find_spec ends, ?_⟩
  have lasts := (hold_lasts configured starts _ held).2
  rw [timeAt_succ]
  rcases Nat.eq_zero_or_pos (Nat.find ends) with zero | positiveLength
  · rw [zero, Nat.add_zero]
    linarith
  · linarith [lasts positiveLength]

/-! ## The recovery -/

section

variable (configured : settings.preemption = some config) (timed : plan.Timed)
  (positive : 0 < settings.dt) (short : plan.ShortTick settings.dt) {green : plan.Idx}
  (isGreen : plan.isGreen green = true) {r : Nat}
  (well : WellTimed (controllerAt settings base ticks r).base)

include configured timed positive short isGreen well

/-- While the clearance after a hold runs on, the time to the next green drops
by the time step. -/
theorem recovery_lasts (d : Nat)
    (recovering : ∀ k, r ≤ k → k ≤ r + d → (controllerAt settings base ticks k).state = .recovering) :
    WellTimed (controllerAt settings base ticks (r + d)).base ∧
      plan.toGreen (shown settings base ticks (r + d)) -
          (controllerAt settings base ticks (r + d)).base.timeInCurrentState =
        plan.toGreen (shown settings base ticks r) -
          (controllerAt settings base ticks r).base.timeInCurrentState - d * settings.dt := by
  induction d with
  | zero => exact ⟨well, by simp⟩
  | succ d ih =>
    obtain ⟨wellBefore, before⟩ := ih fun k late early => recovering k late (by omega)
    have here := recovering (r + d) (by omega) (by omega)
    have there := recovering (r + d + 1) (by omega) (by omega)
    have busy : (controllerAt settings base ticks (r + d)).state ≠ .normal := by
      rw [here]
      nofun
    have isSound := (sound settings base ticks (r + d)).core
    obtain ⟨moved, _⟩ := (busy_branch configured busy).recovers here
    rw [core_base, core_base] at moved
    have onWay := (sound settings base ticks (r + d + 1)).core.offGreen (.inr there)
    change plan.isGreen (controllerAt settings base ticks
      (r + d + 1)).base.currentPhaseIdx = false at onWay
    rw [moved] at onWay
    obtain ⟨wellAfter, after⟩ := advance_toGreen timed positive short
      isSound.resumeGreen isGreen wellBefore (isSound.offGreen (.inr here))
      onWay
    rw [← moved] at wellAfter after
    refine ⟨wellAfter, ?_⟩
    change plan.toGreen (shown settings base ticks (r + d + 1)) -
        (controllerAt settings base ticks (r + d + 1)).base.timeInCurrentState =
      plan.toGreen (shown settings base ticks (r + d)) -
        (controllerAt settings base ticks (r + d)).base.timeInCurrentState - settings.dt at after
    push_cast
    rw [← Nat.add_assoc]
    linarith

theorem recovery_ends (state : (controllerAt settings base ticks r).state = .recovering) :
    ∃ d, (∀ k, r ≤ k → k ≤ r + d → (controllerAt settings base ticks k).state = .recovering) ∧
      (controllerAt settings base ticks (r + d + 1)).state ≠ .recovering := by
  have ends : ∃ d, (controllerAt settings base ticks (r + d + 1)).state ≠ .recovering := by
    by_contra never
    push Not at never
    have recovering : ∀ k, r ≤ k → (controllerAt settings base ticks k).state = .recovering := by
      intro k late
      rcases Nat.eq_or_lt_of_le late with rfl | inside
      · exact state
      · obtain ⟨j, rfl⟩ := Nat.exists_eq_add_of_lt inside
        exact never j
    obtain ⟨d, above⟩ := exists_time_above positive (plan.toGreen (shown settings base ticks r) -
        (controllerAt settings base ticks r).base.timeInCurrentState)
    obtain ⟨wellAfter, after⟩ := recovery_lasts configured timed positive short
      isGreen well d fun k late _ => recovering k late
    have left := time_le_toGreen timed wellAfter isGreen
      ((sound settings base ticks (r + d)).core.offGreen (.inr (recovering (r + d) (by omega))))
    change _ ≤ plan.toGreen (shown settings base ticks (r + d)) at left
    linarith
  classical
  refine ⟨Nat.find ends, fun k late early => ?_, Nat.find_spec ends⟩
  rcases Nat.eq_or_lt_of_le late with rfl | inside
  · exact state
  · obtain ⟨j, rfl⟩ := Nat.exists_eq_add_of_lt inside
    exact not_not.mp (Nat.find_min ends (m := j) (by omega))

end

/-- After the plan is restored no pre-emption begins until its lockout is
over. -/
theorem lockout_lasts (positive : 0 < settings.dt) {g : Nat}
    (state : (controllerAt settings base ticks g).state = .normal)
    (locked : (controllerAt settings base ticks g).lockout = config.minRecoveryS) (d : Nat)
    (short : ∀ k : Nat, k < d → k * settings.dt < config.minRecoveryS) :
    (controllerAt settings base ticks (g + d)).state = .normal ∧
      config.minRecoveryS - d * settings.dt ≤
        (controllerAt settings base ticks (g + d)).lockout := by
  induction d with
  | zero => exact ⟨state, by simp [locked]⟩
  | succ d ih =>
    obtain ⟨isNormal, remains⟩ := ih fun k small => short k (by omega)
    have inTime := short d (Nat.lt_succ_self d)
    have tick := ticked settings base ticks (g + d)
    change (controllerAt settings base ticks (g + d + 1)).core.state = _ ∧
      _ ≤ (controllerAt settings base ticks (g + d + 1)).core.lockout
    generalize (controllerAt settings base ticks (g + d + 1)).core = after at tick ⊢
    push_cast
    cases tick with
    | idle _ lockout _ _ waited =>
      refine ⟨isNormal, ?_⟩
      change _ ≤ lockout
      rcases waited with ⟨counted, _⟩ | ⟨kept, _⟩
      · have counts := le_max_right 0
          ((controllerAt settings base ticks (g + d)).core.lockout - settings.dt)
        rw [← counted] at counts
        change (controllerAt settings base ticks (g + d)).lockout - settings.dt ≤ lockout at counts
        linarith
      · rw [kept]
        change _ ≤ (controllerAt settings base ticks (g + d)).lockout
        linarith
    | begins _ _ _ _ _ _ _ unlocked =>
      change (controllerAt settings base ticks (g + d)).lockout ≤ 0 at unlocked
      linarith
    | busy _ _ _ _ busy => exact absurd isNormal busy

theorem recovery_waits (configured : settings.preemption = some config)
    (positive : 0 < settings.dt) {g n : Nat}
    (state : (controllerAt settings base ticks g).state = .normal)
    (locked : (controllerAt settings base ticks g).lockout = config.minRecoveryS) (later : g ≤ n)
    (begins : BeginsAt settings base ticks n) :
    config.minRecoveryS ≤ timeAt settings (n + 1) - timeAt settings g := by
  by_contra early
  obtain ⟨d, rfl⟩ := Nat.exists_eq_add_of_le later
  have elapsed : timeAt settings (g + d + 1) - timeAt settings g =
      d * settings.dt + settings.dt := by
    unfold timeAt
    push_cast
    ring
  rw [elapsed, not_le] at early
  obtain ⟨_, remains⟩ := lockout_lasts positive state locked d (by
    intro k small
    have fewer : (k : ℚ) * settings.dt ≤ d * settings.dt :=
      mul_le_mul_of_nonneg_right (by exact_mod_cast small.le) positive.le
    linarith)
  obtain ⟨_, unlocked, _⟩ := begins_branch configured begins
  linarith

/-- The planned resume phase is the interrupted green, or the next of other
directions when the interrupted one is held. -/
theorem resumesAt_resumeTarget {cursor : PlanCursor plan} {target first : plan.Idx}
    (keeps : KeepsInterrupted plan cursor target)
    (shows : ∀ resume, resumeTarget cursor target = some resume → first = resume) :
    ResumesAt plan cursor target first := by
  intro idx isInterrupted
  unfold resumeTarget at shows
  rw [isInterrupted] at shows
  dsimp only at shows
  refine ⟨fun different => ?_, fun same => ?_⟩
  · have directions := (keeps idx isInterrupted).resolve_left different
    rw [if_neg directions] at shows
    exact shows idx rfl
  · rw [same, if_pos rfl] at shows
    exact shows

end Runs

/-- A request to the paired plan from the east, for a minute. -/
def eastRequest (n : Nat) : Tick :=
  if n < 60 then { emergencies := [approaching .east .straight] } else {}

/-- A request to the one-direction plan for the left turn of the approach that
is showing its straight green. -/
def leftRequest (n : Nat) : Tick :=
  if n = 3 then { emergencies := [approaching .north .left] } else {}

end PriorityRun
end UrbanFlow
