import UrbanFlow.Priority.MinimumGreen
import UrbanFlow.Priority.TransitAccounts

/-!
# Budgets of transit priority

Over a run, each showing of a green is frozen for less than the extension budget and one
time step, is cut at most once, and counts its minimum green on the plan's clock unless
pre-emption ends it; actions that open a budget keep the spacing.
-/

namespace UrbanFlow

open CarrySchedule CyclicOrder PriorityController FixedTimeSignalController

variable {plan : Plan}

theorem TransitPriorityConfig.validate_maxExtension {config : TransitPriorityConfig}
    (valid : config.validate = .ok ()) : 0 ≤ config.maxExtensionS := by
  simp only [validate, check_bind_ok_iff, within_ok_iff] at valid
  obtain ⟨_, _, _, maxExtension, _⟩ := valid
  exact maxExtension.1

namespace PriorityRun

section Runs

variable (settings : PrioritySettings) (base : PlanCursor plan) (ticks : Nat → Tick)

/-- Tick `n + 1` goes on showing the phase shown at `n`. -/
def GoesOn (n : Nat) : Prop := Continues (controllerAt settings base ticks n).base
    (controllerAt settings base ticks (n + 1)).base

instance (n : Nat) : Decidable (GoesOn settings base ticks n) :=
  inferInstanceAs (Decidable (Continues _ _))

/-- The states from `first` to `last` show one phase, which is entered at `first`. -/
structure Showing (first last : Nat) : Prop where
  ordered : first ≤ last
  begins : ∀ n, n + 1 = first → ¬ GoesOn settings base ticks n
  goesOn : ∀ n, first ≤ n → n < last → GoesOn settings base ticks n

/-- Transit priority freezes the phase shown at `n` for a tick. -/
def ExtendsAt (n : Nat) : Prop := (controllerAt settings base ticks (n + 1)).tspExtensionTotal ≠
    (controllerAt settings base ticks n).tspExtensionTotal

/-- Transit priority cuts the phase shown at `n`. -/
def CutsAt (n : Nat) : Prop := (controllerAt settings base ticks (n + 1)).tspEarlyGreenTotal ≠
    (controllerAt settings base ticks n).tspEarlyGreenTotal

instance (n : Nat) : Decidable (ExtendsAt settings base ticks n) :=
  inferInstanceAs (Decidable (_ ≠ _))

instance (n : Nat) : Decidable (CutsAt settings base ticks n) := inferInstanceAs (Decidable (_ ≠ _))

/-- The seconds cut at `n`. -/
def cutAt (n : Nat) : ℚ := (controllerAt settings base ticks (n + 1)).tspEarlyGreenTotal -
    (controllerAt settings base ticks n).tspEarlyGreenTotal

/-- What transit priority does to a showing. -/
structure TransitBudgets (config : TransitPriorityConfig) (first last : Nat) : Prop where
  plain : ∀ n, first ≤ n → n ≤ last →
    ¬ ExtendsAt settings base ticks n → ¬ CutsAt settings base ticks n →
      PlainMove settings.dt (controllerAt settings base ticks n)
        (controllerAt settings base ticks (n + 1))
  frozen : ∀ n, first ≤ n → n ≤ last → ExtendsAt settings base ticks n →
    (controllerAt settings base ticks (n + 1)).base = (controllerAt settings base ticks n).base ∧
      (controllerAt settings base ticks (n + 1)).tspExtensionTotal =
        (controllerAt settings base ticks n).tspExtensionTotal + settings.dt
  frozen_lt : (controllerAt settings base ticks (last + 1)).tspExtensionTotal -
      (controllerAt settings base ticks first).tspExtensionTotal <
    config.maxExtensionS + settings.dt
  cut : ∀ n, first ≤ n → n ≤ last → CutsAt settings base ticks n →
    (controllerAt settings base ticks (n + 1)).base = PhaseDriver.advance settings.dt plan.next
        (PhaseDriver.skipAhead (cutAt settings base ticks n)
          (controllerAt settings base ticks n).base)
  cut_le : ∀ n, first ≤ n → n ≤ last → CutsAt settings base ticks n →
    cutAt settings base ticks n ≤ config.maxEarlyGreenS
  cut_once : ∀ m n, first ≤ m → m ≤ last → first ≤ n → n ≤ last →
    CutsAt settings base ticks m → CutsAt settings base ticks n → m = n

section

variable (config : TransitPriorityConfig) (first last : Nat)

/-- A cut, or an extension before which the showing was not extended, keeps the spacing
to every earlier action. -/
def Spaced : Prop :=
  ∀ n, first ≤ n → n ≤ last → (CutsAt settings base ticks n ∨ ExtendsAt settings base ticks n ∧
      ∀ m, first ≤ m → m < n → ¬ ExtendsAt settings base ticks m) →
    ∀ m, m < n → (CutsAt settings base ticks m ∨ ExtendsAt settings base ticks m) →
      config.minSpacingS ≤ timeAt settings (n + 1) - timeAt settings (m + 1)

/-- A showing that is cut lasts for the minimum green or its planned duration. -/
def MinimumShown : Prop :=
  ∀ n, first ≤ n → n ≤ last → CutsAt settings base ticks n → ¬ GoesOn settings base ticks last →
      min config.minGreenS (plan.duration (shown settings base ticks first)) ≤
        timeAt settings (last + 1) - timeAt settings first

/-- Unless pre-emption ends it, a showing that is cut lasts, with the time its clock
stands at in the beginning, for the minimum green or its planned duration. -/
def MinimumClocked : Prop := ∀ n, first ≤ n → n ≤ last → CutsAt settings base ticks n →
    ¬ GoesOn settings base ticks last → ¬ EndsGreen settings base ticks last →
      min config.minGreenS (plan.duration (shown settings base ticks first)) ≤
        (controllerAt settings base ticks first).base.timeInCurrentState +
          (timeAt settings (last + 1) - timeAt settings first)

end

variable {settings base ticks}

theorem transitTick (n : Nat) :
    TransitTick settings (timeAt settings (n + 1)) (controllerAt settings base ticks n)
      (controllerAt settings base ticks (n + 1)) := by
  rw [controllerAt_succ]
  exact update_transitTick (sound settings base ticks n) (ticks n)

/-- A showing may be looked at up to any of its states. -/
theorem Showing.upTo {first last n : Nat} (showing : Showing settings base ticks first last)
    (late : first ≤ n) (early : n ≤ last) : Showing settings base ticks first n :=
  ⟨late, showing.begins, fun m after before => showing.goesOn m after (before.trans_le early)⟩

theorem constant_of_ticks {value : Type} {first last : Nat} (ordered : first ≤ last)
    (of : Nat → value) (step : ∀ n, first ≤ n → n < last → of (n + 1) = of n) :
    of last = of first := by
  induction last, ordered using Nat.le_induction with
  | base => rfl
  | succ last ordered ih =>
    rw [step last ordered (Nat.lt_succ_self _)]
    exact ih fun n late early => step n late (early.trans (Nat.lt_succ_self _))

theorem Showing.key {first last : Nat} (showing : Showing settings base ticks first last) :
    (controllerAt settings base ticks last).key = (controllerAt settings base ticks first).key :=
  constant_of_ticks showing.ordered (fun n => (controllerAt settings base ticks n).key)
    fun n late early => key_of_continues (showing.goesOn n late early)

theorem Showing.extension_total {first last : Nat}
    (showing : Showing settings base ticks first last) :
    (controllerAt settings base ticks last).extension -
        (controllerAt settings base ticks first).extension =
      (controllerAt settings base ticks last).tspExtensionTotal -
        (controllerAt settings base ticks first).tspExtensionTotal := by
  have same := constant_of_ticks showing.ordered
    (fun n => (controllerAt settings base ticks n).extension -
      (controllerAt settings base ticks n).tspExtensionTotal)
    fun n late early => by
      have grown := (transitTick n).extension_total (key_of_continues (showing.goesOn n late early))
      linarith
  linarith

section Budgets

variable {config : TransitPriorityConfig} {first last : Nat}
  (configured : settings.transit = some config)
  (positive : 0 < settings.dt)

include positive in
/-- The extension accounted for is not negative. -/
theorem extension_nonneg (n : Nat) : 0 ≤ (controllerAt settings base ticks n).extension := by
  have extended : 0 ≤ (controllerAt settings base ticks n).tspExtended := by
    induction n with
    | zero => exact le_rfl
    | succ n ih => exact (transitTick n).tspExtended_nonneg positive ih
  unfold PriorityController.extension
  split
  · exact extended
  · exact le_rfl

include configured positive in
theorem Showing.frozen_lt (budget : 0 ≤ config.maxExtensionS)
    (showing : Showing settings base ticks first last) :
    (controllerAt settings base ticks (last + 1)).tspExtensionTotal -
        (controllerAt settings base ticks first).tspExtensionTotal <
      config.maxExtensionS + settings.dt := by
  have extended : ∀ n, first ≤ n → n ≤ last → ExtendsAt settings base ticks n →
      (controllerAt settings base ticks (n + 1)).tspExtensionTotal -
          (controllerAt settings base ticks first).tspExtensionTotal <
        config.maxExtensionS + settings.dt := by
    intro n late early isExtended
    obtain ⟨-, total, inBudget, -⟩ := (transitTick n).of_extends configured isExtended
    have grown := (showing.upTo late early).extension_total
    have nonneg : 0 ≤ (controllerAt settings base ticks first).extension :=
      extension_nonneg positive first
    rw [total]
    linarith
  have upTo : ∀ n, first ≤ n → n ≤ last →
      (controllerAt settings base ticks (n + 1)).tspExtensionTotal -
          (controllerAt settings base ticks first).tspExtensionTotal <
        config.maxExtensionS + settings.dt := by
    intro n late early
    by_cases isExtended : ExtendsAt settings base ticks n
    · exact extended n late early isExtended
    · unfold ExtendsAt at isExtended
      rw [not_not] at isExtended
      rw [isExtended]
      induction n, late using Nat.le_induction with
      | base => linarith
      | succ n late ih =>
        by_cases isBefore : ExtendsAt settings base ticks n
        · exact extended n late (Nat.le_of_succ_le early) isBefore
        · unfold ExtendsAt at isBefore
          rw [not_not] at isBefore
          rw [isBefore]
          exact ih (Nat.le_of_succ_le early) isBefore
  exact upTo last showing.ordered le_rfl

include configured in
theorem Showing.cut_once (showing : Showing settings base ticks first last) {m n : Nat}
    (late : first ≤ m) (earlier : m < n) (early : n ≤ last)
    (isCut : CutsAt settings base ticks m) : ¬ CutsAt settings base ticks n := by
  intro isCutAgain
  have cut := (transitTick m).of_cuts configured isCut
  have again := (transitTick n).of_cuts configured isCutAgain
  have sameKey : ∀ k, first ≤ k → k ≤ last → (controllerAt settings base ticks k).key =
        (controllerAt settings base ticks first).key :=
    fun k isLate isEarly => (showing.upTo isLate isEarly).key
  have kept : ∀ k, m + 1 ≤ k → k ≤ n → (controllerAt settings base ticks k).tspCutKey =
        some (controllerAt settings base ticks first).key := by
    intro k isLate
    induction k, isLate using Nat.le_induction with
    | base =>
      intro _
      rw [cut.keyed, sameKey m late (earlier.le.trans early)]
    | succ k isLate ih =>
      intro isEarly
      have isBefore := ih (Nat.le_of_succ_le isEarly)
      obtain same | isKey := (transitTick k).tspCutKey_cases
      · exact same.trans isBefore
      · rw [isKey, sameKey k (late.trans (Nat.le_of_succ_le isLate))
          ((Nat.le_of_succ_le isEarly).trans early)]
  apply again.uncut
  rw [kept n earlier le_rfl, sameKey n (late.trans earlier.le) early]

/-- The phase that the accounts are about has been shown before. -/
theorem tspKey_shown (n : Nat) {key : plan.Idx × Nat}
    (isKey : (controllerAt settings base ticks n).tspKey = some key) :
    ∃ m, m < n ∧ (controllerAt settings base ticks m).key = key := by
  induction n with
  | zero => exact absurd isKey nofun
  | succ n ih =>
    have tick : TransitTick settings (timeAt settings (n + 1))
        (controllerAt settings base ticks n) (controllerAt settings base ticks (n + 1)) :=
      transitTick n
    obtain same | isOwn := tick.tspKey_cases
    · obtain ⟨m, isBefore, isShown⟩ := ih (same.symm.trans isKey)
      exact ⟨m, isBefore.trans (Nat.lt_succ_self n), isShown⟩
    · exact ⟨n, Nat.lt_succ_self n, Option.some.inj (isOwn.symm.trans isKey)⟩

include configured positive in
theorem action_le {m n : Nat} (earlier : m < n)
    (acts : CutsAt settings base ticks m ∨ ExtendsAt settings base ticks m) :
    timeAt settings (m + 1) ≤ (controllerAt settings base ticks n).tspLastAction := by
  have isLast : (controllerAt settings base ticks (m + 1)).tspLastAction =
      timeAt settings (m + 1) := by
    rcases acts with isCut | isExtended
    · exact ((transitTick m).of_cuts configured isCut).acted
    · obtain ⟨-, -, -, -, acted⟩ := (transitTick m).of_extends configured isExtended
      exact acted
  induction n, earlier using Nat.le_induction with
  | base => exact isLast.ge
  | succ n late ih =>
    have tick : TransitTick settings (timeAt settings (n + 1))
        (controllerAt settings base ticks n) (controllerAt settings base ticks (n + 1)) :=
      transitTick n
    obtain same | isNow := tick.tspLastAction_cases
    · exact ih.trans_eq same.symm
    · rw [isNow]
      unfold timeAt
      have isLater : ((m + 1 : Nat) : ℚ) ≤ ((n + 1 : Nat) : ℚ) := by
        exact_mod_cast Nat.le_succ_of_le late
      exact mul_le_mul_of_nonneg_right isLater positive.le

section

variable (timed : plan.Timed) (nonneg : 0 ≤ base.timeInCurrentState)
  (isLong : 2 ≤ plan.phases.length)

include positive timed nonneg isLong

theorem showingTick (n : Nat) : ShowingTick settings.dt (controllerAt settings base ticks n)
      (controllerAt settings base ticks (n + 1)) :=
  (transitTick n).showingTick positive isLong timed (clock_nonnegative positive nonneg n) rfl

/-- The numbers of showings do not go down over a run. -/
theorem showingNumber_mono :
    Monotone fun n => showingNumber (controllerAt settings base ticks n).base :=
  monotone_nat_of_le_succ fun n => (showingTick positive timed nonneg isLong n).number_le

theorem showingNumber_lt {n : Nat} (leaves : ¬ GoesOn settings base ticks n) :
    showingNumber (controllerAt settings base ticks n).base <
      showingNumber (controllerAt settings base ticks (n + 1)).base := by
  have tick : ShowingTick settings.dt (controllerAt settings base ticks n)
      (controllerAt settings base ticks (n + 1)) :=
    showingTick positive timed nonneg isLong n
  refine tick.number_le.lt_of_ne fun same => leaves ?_
  exact tick.continues same

/-- When a showing begins, nothing of its extension is accounted for. -/
theorem Showing.extension_first (showing : Showing settings base ticks first last) :
    (controllerAt settings base ticks first).extension = 0 := by
  unfold PriorityController.extension
  rw [if_neg]
  intro isKey
  obtain ⟨m, isBefore, isShown⟩ := tspKey_shown first isKey
  obtain ⟨before, rfl⟩ : ∃ before, first = before + 1 :=
    Nat.exists_eq_add_one.mpr (Nat.zero_lt_of_lt isBefore)
  have raised := showingNumber_lt positive timed nonneg isLong (showing.begins before rfl)
  have lower : showingNumber (controllerAt settings base ticks m).base ≤
      showingNumber (controllerAt settings base ticks before).base :=
    showingNumber_mono positive timed nonneg isLong (Nat.lt_succ_iff.mp isBefore)
  have sameNumber : showingNumber (controllerAt settings base ticks m).base =
      showingNumber (controllerAt settings base ticks (before + 1)).base := by
    unfold showingNumber
    have sameIndex : (controllerAt settings base ticks m).base.currentPhaseIdx =
        (controllerAt settings base ticks (before + 1)).base.currentPhaseIdx :=
      congrArg Prod.fst isShown
    have sameCycle : (controllerAt settings base ticks m).base.cycleNumber =
        (controllerAt settings base ticks (before + 1)).base.cycleNumber :=
      congrArg Prod.snd isShown
    rw [sameIndex, sameCycle]
  omega

include configured in
/-- Actions that open a budget keep the spacing. -/
theorem Showing.spaced (showing : Showing settings base ticks first last) :
    Spaced settings base ticks config first last := by
  intro n late early opens m isBefore acts
  have isLast := action_le configured positive isBefore acts
  rcases opens with isCut | ⟨isExtended, notBefore⟩
  · have cut := (transitTick n).of_cuts configured isCut
    linarith [cut.spaced]
  · obtain ⟨-, -, -, spaced, -⟩ := (transitTick n).of_extends configured isExtended
    have upTo := showing.upTo late early
    have sameTotal : (controllerAt settings base ticks n).tspExtensionTotal =
        (controllerAt settings base ticks first).tspExtensionTotal :=
      constant_of_ticks late (fun k => (controllerAt settings base ticks k).tspExtensionTotal)
        fun k isLate isEarly => not_not.mp (notBefore k isLate isEarly)
    have grown := upTo.extension_total
    rw [showing.extension_first positive timed nonneg isLong, sameTotal, sub_self,
      sub_zero] at grown
    rw [grown] at spaced
    obtain isPositive | spaced := spaced
    · exact absurd isPositive (lt_irrefl 0)
    · linarith

/-- In a showing a clock gains no more than the time that passes and what is cut. -/
theorem Showing.time_le (showing : Showing settings base ticks first last) :
    (controllerAt settings base ticks last).base.timeInCurrentState ≤
      (controllerAt settings base ticks first).base.timeInCurrentState +
        (timeAt settings last - timeAt settings first) +
        ((controllerAt settings base ticks last).tspEarlyGreenTotal -
          (controllerAt settings base ticks first).tspEarlyGreenTotal) := by
  obtain ⟨ordered, -, -⟩ := showing
  induction last, ordered using Nat.le_induction with
  | base => linarith
  | succ last =>
    have tick : ShowingTick settings.dt (controllerAt settings base ticks last)
        (controllerAt settings base ticks (last + 1)) :=
      showingTick positive timed nonneg isLong last
    have isStep := tick.time_le
    rw [timeAt_succ]
    linarith

end

include configured positive in
/-- Unless pre-emption ends it, a green that is cut counts its minimum. -/
theorem Showing.minimumClocked (timed : plan.Timed) (nonneg : 0 ≤ base.timeInCurrentState)
    (showing : Showing settings base ticks first last) :
    MinimumClocked settings base ticks config first last := by
  intro n late early isCut leaves notEnded
  have cut := (transitTick n).of_cuts configured isCut
  have isLong := cut.isLong
  have clock := showing.time_le positive timed nonneg isLong
  have tick : ShowingTick settings.dt (controllerAt settings base ticks last)
      (controllerAt settings base ticks (last + 1)) :=
    showingTick positive timed nonneg isLong last
  have raised := showingNumber_lt positive timed nonneg isLong leaves
  have sameIndex : ∀ k, first ≤ k → k ≤ last → (controllerAt settings base ticks k).index =
        (controllerAt settings base ticks first).index :=
    fun k isLate isEarly => congrArg Prod.fst (showing.upTo isLate isEarly).key
  have isGreen : plan.isGreen (controllerAt settings base ticks last).index = true := by
    rw [sameIndex last showing.ordered le_rfl, ← sameIndex n late early]
    exact cut.isGreen
  have notJumped : (controllerAt settings base ticks (last + 1)).state ≠ .clearing ∧
      (controllerAt settings base ticks (last + 1)).state ≠ .recovering :=
    not_or.mp fun jumped => notEnded ⟨isGreen, jumped⟩
  have ends := tick.ends isGreen raised notJumped
  have isOnly : (controllerAt settings base ticks (last + 1)).tspEarlyGreenTotal -
      (controllerAt settings base ticks first).tspEarlyGreenTotal =
        cutAt settings base ticks n := by
    have sameBefore : (controllerAt settings base ticks n).tspEarlyGreenTotal =
        (controllerAt settings base ticks first).tspEarlyGreenTotal :=
      constant_of_ticks late (fun k => (controllerAt settings base ticks k).tspEarlyGreenTotal)
        fun k isLate isEarly => by
          by_contra isCutBefore
          exact showing.cut_once configured isLate isEarly early isCutBefore isCut
    have sameAfter : (controllerAt settings base ticks (last + 1)).tspEarlyGreenTotal =
        (controllerAt settings base ticks (n + 1)).tspEarlyGreenTotal :=
      constant_of_ticks (Nat.succ_le_succ early)
        (fun k => (controllerAt settings base ticks k).tspEarlyGreenTotal)
        fun k isLate isEarly => by
          by_contra isCutAfter
          exact showing.cut_once configured late isLate (Nat.lt_succ_iff.mp isEarly) isCut
            isCutAfter
    rw [sameAfter, ← sameBefore, cutAt]
  have keeps := cut.keeps
  rw [sameIndex n late early] at keeps
  rw [sameIndex last showing.ordered le_rfl] at ends
  refine (min_le_left _ _).trans ?_
  rw [timeAt_succ]
  unfold cutAt at isOnly
  linarith

end Budgets

end Runs

/-- For every plan, configuration, start and sequence of ticks: a showing is frozen and
cut within its budgets, it counts its minimum green on the plan's clock unless
pre-emption ends it, and in a plan of two phases or more the actions that open a budget
keep the spacing. -/
theorem transit_within_budgets (settings : PrioritySettings) (offset : ℚ) (ticks : Nat → Tick)
    {config : TransitPriorityConfig} (configured : settings.transit = some config)
    (valid : config.validate = .ok ()) (positive : 0 < settings.dt) (timed : plan.Timed)
    {first last : Nat}
    (showing : Showing settings (reset plan offset) ticks first last) :
    TransitBudgets settings (reset plan offset) ticks config first last ∧
      MinimumClocked settings (reset plan offset) ticks config
        first last ∧ (2 ≤ plan.phases.length →
        Spaced settings (reset plan offset) ticks config first last) := by
  have nonneg := (reset_wellTimed plan offset).nonnegative
  refine ⟨?_, showing.minimumClocked configured positive timed nonneg, fun isLong =>
    showing.spaced configured positive timed nonneg isLong⟩
  exact {
    plain := fun n _ _ notExtended notCut =>
      (transitTick n).plainMove positive (not_not.mp notExtended) (not_not.mp notCut)
    frozen := fun n _ _ isExtended => by
      obtain ⟨same, total, -⟩ := (transitTick n).of_extends configured isExtended
      exact ⟨same, total⟩
    frozen_lt := showing.frozen_lt configured positive (TransitPriorityConfig.validate_maxExtension valid)
    cut := fun n _ _ isCut => ((transitTick n).of_cuts configured isCut).same
    cut_le := fun n _ _ isCut => ((transitTick n).of_cuts configured isCut).inBudget
    cut_once := fun m n lateM earlyM lateN earlyN isCutM isCutN => by
      rcases Nat.lt_trichotomy m n with isBefore | same | isAfter
      · exact absurd isCutN (showing.cut_once configured lateM isBefore earlyN isCutM)
      · exact same
      · exact absurd isCutM (showing.cut_once configured lateN isAfter earlyM isCutN) }

/-- A late bus going straight, on its way to the stop line. -/
def lateBus (approach : Direction) (position : ℚ) : TransitView where
  vehicleId := "bus_0"
  approach := approach
  turn := .straight
  state := .approaching
  lane := some { laneId := lanePrefix approach ++ "0", length := 100 }
  position := position
  speed := 10
  desiredSpeed := 10
  dwellState := .done
  dwellS := 0
  dwellStarted := 0
  plannedArrival := -100

theorem transit_within_budgets_paired : TransitBudgets { dt := 1, transit := some {} }
        (reset pairedPlan 0)
        (fun _ => { buses := [lateBus .east 90] }) {} 0 3 ∧
      MinimumClocked { dt := 1, transit := some {} } (reset pairedPlan 0)
        (fun _ => { buses := [lateBus .east 90] }) {} 0 3 ∧
      (2 ≤ pairedPlan.phases.length → Spaced { dt := 1, transit := some {} }
          (reset pairedPlan 0)
          (fun _ => { buses := [lateBus .east 90] }) {} 0 3) :=
  transit_within_budgets { dt := 1, transit := some {} } 0 _ rfl (by decide)
    (by norm_num) (by decide)
    ⟨by decide, (fun _ impossible => nomatch impossible), by
      have goesOn : ∀ n, n < 3 → GoesOn { dt := 1, transit := some {} }
          (reset pairedPlan 0)
          (fun _ => { buses := [lateBus .east 90] }) n := by decide +kernel
      exact fun n _ early => goesOn n early⟩

/-- A plan of one green phase of three seconds. -/
def lonePlan : Plan where
  phases := [{ pairedPlan.phase ⟨0, by decide⟩ with duration := 3 }]
  nonempty := by decide

/-- A bus on one tick, and an emergency vehicle on the other street from then on. -/
def busThenEmergency (n : Nat) : Tick := if n = 0 then { buses := [lateBus .east 90] }
  else { emergencies := [approaching .east .straight] }

/-- A bus on the first tick, and again from the fifth on. -/
def busesApart (n : Nat) : Tick := if n = 0 ∨ 4 ≤ n then { buses := [lateBus .north 50] } else {}

/-- A pre-emption ends a green that was cut before its minimum; a run that starts inside
a green shows less of it; and the phase of a one-phase plan is extended again without
spacing, since its cycles are not counted. -/
theorem transit_budgets_exceeded :
    (Showing { dt := 1, preemption := some { minGreenS := 1 }, transit := some {} }
        (reset pairedPlan 0) busThenEmergency 0 1 ∧
      ¬ MinimumShown { dt := 1, preemption := some { minGreenS := 1 }, transit := some {} }
        (reset pairedPlan 0) busThenEmergency {} 0 1) ∧
      (Showing { dt := 1, transit := some {} } (reset pairedPlan 25)
          (fun _ => { buses := [lateBus .east 90] }) 0 0 ∧
        ¬ MinimumShown { dt := 1, transit := some {} }
          (reset pairedPlan 25)
          (fun _ => { buses := [lateBus .east 90] }) {} 0 0) ∧
      Showing { dt := 1, transit := some {} }
          (reset lonePlan 0) busesApart 4 4 ∧
        ¬ Spaced { dt := 1, transit := some {} }
          (reset lonePlan 0) busesApart {} 4 4 := by
  refine ⟨⟨⟨by decide, (fun _ impossible => nomatch impossible), ?_⟩, ?_⟩,
    ⟨⟨le_rfl, (fun _ impossible => nomatch impossible), ?_⟩, ?_⟩,
    ⟨le_rfl, ?_, ?_⟩, ?_⟩
  · intro n _ early
    obtain rfl : n = 0 := by omega
    decide +kernel
  · intro claimed
    exact absurd (claimed 0 le_rfl (by decide) (by decide +kernel) (by decide +kernel))
      (by decide +kernel)
  · intro n late early
    exact absurd early (Nat.not_lt.mpr late)
  · intro claimed
    exact absurd (claimed 0 le_rfl le_rfl (by decide +kernel) (by decide +kernel))
      (by decide +kernel)
  · intro n isFourth
    obtain rfl : n = 3 := by omega
    decide +kernel
  · intro n late early
    exact absurd early (Nat.not_lt.mpr late)
  · intro claimed
    have opens : ExtendsAt { dt := 1, transit := some {} }
        (reset lonePlan 0) busesApart 4 := by decide +kernel
    have isFirst : ∀ m, 4 ≤ m → m < 4 → ¬ ExtendsAt { dt := 1, transit := some {} }
        (reset lonePlan 0) busesApart m :=
      fun m late early => absurd early (Nat.not_lt.mpr late)
    have spacing := claimed 4 le_rfl le_rfl (.inr ⟨opens, isFirst⟩) 0 (by decide)
      (.inr (by decide +kernel))
    exact absurd spacing (by decide +kernel)

end PriorityRun
end UrbanFlow
