import UrbanFlow.Networks.Stepper

/-!
# The signal of one node

What a signal serves, tick by tick, when the same phase is requested for a whole
decision interval: how long each green is shown and how long the node is closed
between two axes. The stepper applies the request on every tick, so a request for
the old phase during a clearance ends the new green as soon as it is shown, unless
the clearance lasts for the rest of the interval.
-/

namespace UrbanFlow.Networks

variable {Item : Type} {earlier : List Item} {count : Nat} {item : Item}

/-- Every green that a switch ends has been shown for at least `minGreen`
seconds: `served` lists what each tick served, in order. -/
def GreenKept (minGreen dt : ℚ) (served : List (Option Int)) : Prop :=
  ∀ earlier phase count next later,
    served = earlier ++ (List.replicate count (some phase) ++ next :: later) →
    0 < count → earlier.getLast? ≠ some (some phase) → next ≠ some phase →
    minGreen ≤ count * dt

/-- Between the last tick of one axis and the first of the other the node is
closed for at least `clearance` seconds. -/
def ClearanceKept (clearance dt : ℚ) (served : List (Option Int)) : Prop :=
  ∀ earlier phase count other later, served = earlier ++
      (some phase :: (List.replicate count none ++ some other :: later)) →
    phase ≠ other → clearance ≤ count * dt

theorem split_append_singleton {items later : List Item} {last next : Item}
    (isSplit : items ++ [last] = earlier ++ next :: later) :
    (later = [] ∧ last = next ∧ items = earlier) ∨
      ∃ others, later = others ++ [last] ∧ items = earlier ++ next :: others := by
  obtain rfl | ⟨others, other, rfl⟩ := List.eq_nil_or_concat later
  · obtain ⟨rfl, same⟩ := List.append_inj' isSplit rfl
    exact Or.inl ⟨rfl, by simpa using same, rfl⟩
  · rw [List.concat_eq_append] at isSplit ⊢
    have whole : items ++ [last] = (earlier ++ next :: others) ++ [other] := by
      rw [isSplit]
      simp
    obtain ⟨rfl, same⟩ := List.append_inj' whole rfl
    obtain rfl : last = other := by simpa using same
    exact Or.inr ⟨others, rfl, rfl⟩

theorem greenKept_nil (minGreen dt : ℚ) : GreenKept minGreen dt [] := by
  intro earlier phase count next later isSplit
  simp at isSplit

theorem clearanceKept_nil (clearance dt : ℚ) : ClearanceKept clearance dt [] := by
  intro earlier phase count other later isSplit
  simp at isSplit

/-- One more tick ends a green only if the ticks before end in it. -/
theorem GreenKept.append {minGreen dt : ℚ} {served : List (Option Int)} {last : Option Int}
    (greenKept : GreenKept minGreen dt served) (ends : ∀ earlier phase count,
      served = earlier ++ List.replicate count (some phase) → 0 < count →
      earlier.getLast? ≠ some (some phase) → last ≠ some phase → minGreen ≤ count * dt) :
    GreenKept minGreen dt (served ++ [last]) := by
  intro earlier phase count next later isSplit isShown isFirst isEnd
  rw [← List.append_assoc] at isSplit
  obtain ⟨_, rfl, isWhole⟩ | ⟨others, _, isWhole⟩ := split_append_singleton isSplit
  · exact ends earlier phase count isWhole isShown isFirst isEnd
  · rw [List.append_assoc] at isWhole
    exact greenKept earlier phase count next others isWhole isShown isFirst isEnd

/-- One more tick serves the other axis only if the ticks before end in the
clearance. -/
theorem ClearanceKept.append {clearance dt : ℚ} {served : List (Option Int)} {last : Option Int}
    (clearanceKept : ClearanceKept clearance dt served) (opens : ∀ earlier phase count other,
      served = earlier ++ some phase :: List.replicate count none →
      last = some other → phase ≠ other → clearance ≤ count * dt) :
    ClearanceKept clearance dt (served ++ [last]) := by
  intro earlier phase count other later isSplit isOther
  have isSplit' : served ++ [last] = (earlier ++ some phase :: List.replicate count none) ++
        some other :: later := by
    rw [isSplit]
    simp
  obtain ⟨_, isLast, isWhole⟩ | ⟨others, _, isWhole⟩ := split_append_singleton isSplit'
  · exact opens earlier phase count other isWhole isLast isOther
  · refine clearanceKept earlier phase count other others ?_ isOther
    rw [isWhole]
    simp

theorem getLast?_append_replicate (isShown : 0 < count) :
    (earlier ++ List.replicate count item).getLast? = some item := by
  obtain ⟨rest, rfl⟩ := Nat.exists_eq_succ_of_ne_zero isShown.ne'
  rw [List.replicate_succ', ← List.append_assoc]
  simp

/-- The block a list ends in is unique. -/
theorem replicate_append_inj {other : List Item} {otherCount : Nat}
    (same : earlier ++ List.replicate count item = other ++ List.replicate otherCount item)
    (isFirst : earlier.getLast? ≠ some item) (isOtherFirst : other.getLast? ≠ some item) :
    count = otherCount ∧ earlier = other := by
  induction count generalizing otherCount with
  | zero =>
    cases otherCount with
    | zero => exact ⟨rfl, by simpa using same⟩
    | succ otherCount =>
      rw [List.replicate_zero, List.append_nil] at same
      rw [same, getLast?_append_replicate (Nat.succ_pos otherCount)] at isFirst
      exact absurd rfl isFirst
  | succ count ih =>
    cases otherCount with
    | zero =>
      rw [List.replicate_zero, List.append_nil] at same
      rw [← same, getLast?_append_replicate (Nat.succ_pos count)] at isOtherFirst
      exact absurd rfl isOtherFirst
    | succ =>
      rw [List.replicate_succ', List.replicate_succ', ← List.append_assoc,
        ← List.append_assoc] at same
      obtain ⟨sameRest, _⟩ := List.append_inj' same rfl
      obtain ⟨rfl, sameEarlier⟩ := ih sameRest
      exact ⟨rfl, sameEarlier⟩

section

variable (clearance dt : ℚ) (signal : Signal)

/-- What a green has been shown for beyond its timer: the tick that ends a
clearance serves the new phase before the timer starts. -/
def Signal.lead : ℚ := if 0 < clearance ∧ 0 < signal.switches then dt else 0

/-- How long the green of a signal has been shown. -/
def Signal.shown : ℚ := signal.time_in_phase + signal.lead clearance dt

end

/-- No multiple of the time step falls short of the clearance by no more than the
tolerance of its timer. -/
def ClearanceExact (clearance dt : ℚ) : Prop :=
  ∀ ticks : Nat, 0 < ticks → clearance - ticks * dt ≤ timeTolerance → clearance ≤ ticks * dt

/-- The signal and what its node has served so far: the green it ends in with the
time it has been shown, or the clearance it ends in with what is left of it. -/
structure Shows (minGreen clearance dt : ℚ) (served : List (Option Int))
    (signal : Signal) : Prop where
  green : GreenKept minGreen dt served
  clear : ClearanceKept clearance dt served
  open_ : ¬ 0 < signal.clear_left → ∃ earlier count,
    served = earlier ++ List.replicate count (some signal.phase) ∧
      earlier.getLast? ≠ some (some signal.phase) ∧
      (count = 0 → earlier = []) ∧
      count * dt = signal.shown clearance dt
  closed : 0 < signal.clear_left → ∃ earlier, ∃ count : Nat,
    served = earlier ++ List.replicate count none ∧
      (∀ last ∈ earlier.getLast?, last = some signal.phase) ∧
      0 < count ∧ signal.clear_left = clearance - (count - 1) * dt ∧
      0 < clearance ∧ 0 < signal.switches

/-- What is asked of a signal for a number of ticks does not run into the ways a
green is cut short. -/
structure Fits (minGreen clearance dt : ℚ) (want : Int) (ticks : Nat) (signal : Signal) : Prop where
  open_ : ¬ 0 < signal.clear_left → want ≠ signal.phase → minGreen ≤ signal.shown clearance dt
  closed : 0 < signal.clear_left → want = signal.pending ∨ minGreen ≤ dt ∨
    timeTolerance < signal.clear_left - (ticks - 1) * dt

section Signal

variable {minGreen clearance dt : ℚ} {want : Int} {signal after : Signal}
  {served : List (Option Int)}

theorem Signal.update_cases (isUpdate : signal.update clearance dt want = some after) :
    (0 < signal.clear_left ∧ signal.clear_left - dt ≤ timeTolerance ∧ after = { signal with
        clear_left := 0, phase := signal.pending, time_in_phase := 0 }) ∨
    (0 < signal.clear_left ∧ timeTolerance < signal.clear_left - dt ∧
      after = { signal with clear_left := signal.clear_left - dt }) ∨
    (¬ 0 < signal.clear_left ∧ want = signal.phase ∧
      after = { signal with time_in_phase := signal.time_in_phase + dt }) ∨
    (¬ 0 < signal.clear_left ∧ want ≠ signal.phase ∧ clearance ≤ 0 ∧ after = { signal with
        switches := signal.switches + 1, phase := want, time_in_phase := dt }) ∨
    (¬ 0 < signal.clear_left ∧ want ≠ signal.phase ∧ 0 < clearance ∧ after = { signal with
        switches := signal.switches + 1, pending := want,
        clear_left := clearance }) := by
  simp only [Signal.update] at isUpdate
  split_ifs at isUpdate with isClosed isEnd _ isSame isFree
  · exact Or.inl ⟨isClosed, isEnd, (Option.some.inj isUpdate).symm⟩
  · exact Or.inr (Or.inl ⟨isClosed, not_le.mp isEnd, (Option.some.inj isUpdate).symm⟩)
  · exact Or.inr (Or.inr (Or.inr (Or.inl ⟨isClosed, isSame, isFree,
      (Option.some.inj isUpdate).symm⟩)))
  · exact Or.inr (Or.inr (Or.inr (Or.inr ⟨isClosed, isSame, not_le.mp isFree,
      (Option.some.inj isUpdate).symm⟩)))
  · exact Or.inr (Or.inr (Or.inl ⟨isClosed, not_not.mp isSame, (Option.some.inj isUpdate).symm⟩))

theorem timeTolerance_pos : 0 < timeTolerance := by norm_num [timeTolerance]

/-- The ticks that end in a clearance do not end in a green. -/
theorem no_green_of_closed {earlier others : List (Option Int)} {count shown : Nat} {phase : Int}
    (isClosed : 0 < count) (isShown : 0 < shown) (same : earlier ++ List.replicate count none =
      others ++ List.replicate shown (some phase)) : False := by
  have isLast := congrArg List.getLast? same
  rw [getLast?_append_replicate isClosed, getLast?_append_replicate isShown] at isLast
  simp at isLast

theorem Shows.initial : Shows minGreen clearance dt [] {} where
  green := greenKept_nil minGreen dt
  clear := clearanceKept_nil clearance dt
  open_ := fun _ => ⟨[], 0, rfl, by simp, fun _ => rfl, by simp [Signal.shown, Signal.lead]⟩
  closed := by simp

theorem Shows.stays_closed (shows_ : Shows minGreen clearance dt served signal)
    (isClosed : 0 < signal.clear_left) (isLeft : timeTolerance < signal.clear_left - dt) :
    Shows minGreen clearance dt
      (served ++ [Signal.served { signal with clear_left := signal.clear_left - dt }])
      { signal with clear_left := signal.clear_left - dt } := by
  have isStill : 0 < signal.clear_left - dt := timeTolerance_pos.trans isLeft
  obtain ⟨earlier, count, isServed, isPhase, isTick, isTimer, isPositive,
    isSwitched⟩ := shows_.closed isClosed
  have isNone : Signal.served
      { signal with clear_left := signal.clear_left - dt } = none := if_pos isStill
  rw [isNone]
  refine ⟨shows_.green.append ?_, shows_.clear.append (by simp),
    fun notClosed => absurd isStill notClosed, fun _ => ?_⟩
  · intro others phase shown same isShown _ _
    rw [isServed] at same
    exact (no_green_of_closed isTick isShown same).elim
  · refine ⟨earlier, count + 1, ?_, isPhase, Nat.succ_pos count, ?_, isPositive, isSwitched⟩
    · rw [isServed, List.append_assoc, ← List.replicate_succ']
    · simp only [isTimer]
      push_cast
      ring

/-- The clearance ends, and the tick serves the new phase. -/
theorem Shows.opens (isExact : ClearanceExact clearance dt)
    (shows_ : Shows minGreen clearance dt served signal) (isClosed : 0 < signal.clear_left)
    (isEnd : signal.clear_left - dt ≤ timeTolerance) :
    Shows minGreen clearance dt (served ++ [some signal.pending]) { signal with
        clear_left := 0, phase := signal.pending, time_in_phase := 0 } := by
  obtain ⟨earlier, count, isServed, isPhase, isTick, isTimer, isPositive,
    isSwitched⟩ := shows_.closed isClosed
  have isWhole : clearance ≤ count * dt := by
    refine isExact count isTick ?_
    rw [isTimer] at isEnd
    linarith
  have lastIsNone : served.getLast? = some none := by
    rw [isServed, getLast?_append_replicate isTick]
  refine ⟨shows_.green.append ?_, shows_.clear.append ?_, fun _ => ?_, by simp⟩
  · intro others phase shown same isShown _ _
    rw [isServed] at same
    exact (no_green_of_closed isTick isShown same).elim
  · intro others phase closedFor other same _ _
    have isBlock : earlier ++ List.replicate count none =
        (others ++ [some phase]) ++ List.replicate closedFor none := by
      rw [← isServed, same]
      simp
    have notNone : earlier.getLast? ≠ some none := by
      intro isNone
      simpa using isPhase none isNone
    obtain ⟨rfl, _⟩ := replicate_append_inj isBlock notNone (by simp)
    exact isWhole
  · refine ⟨served, 1, rfl, ?_, by simp, ?_⟩
    · rw [lastIsNone]
      simp
    · simp [Signal.shown, Signal.lead, isPositive, isSwitched]

section

variable (shows_ : Shows minGreen clearance dt served signal) (isOpen : ¬ 0 < signal.clear_left)

include shows_ isOpen

theorem Shows.stays_open : Shows minGreen clearance dt (served ++ [some signal.phase])
      { signal with time_in_phase := signal.time_in_phase + dt } := by
  obtain ⟨earlier, count, isServed, isFirst, isFresh, isShown⟩ := shows_.open_ isOpen
  refine ⟨shows_.green.append ?_, shows_.clear.append ?_, fun _ => ?_,
    fun isClosed => absurd isClosed isOpen⟩
  · intro others phase shown same isLong _ isEnd
    have notSame : phase ≠ signal.phase := by
      rintro rfl
      exact isEnd rfl
    have isLast := congrArg List.getLast? (isServed.symm.trans same)
    rw [getLast?_append_replicate isLong] at isLast
    obtain rfl | isPositive := Nat.eq_zero_or_pos count
    · simp [isFresh rfl] at isLast
    · rw [getLast?_append_replicate isPositive] at isLast
      exact absurd (by simpa using isLast.symm) notSame
  · intro others phase closedFor other same isOther notSame
    obtain rfl : signal.phase = other := by simpa using isOther
    have isLast := congrArg List.getLast? (isServed.symm.trans same)
    obtain rfl | isPositive := Nat.eq_zero_or_pos count
    · rw [isServed, isFresh rfl] at same
      simp at same
    · rw [getLast?_append_replicate isPositive] at isLast
      obtain rfl | isClosed := Nat.eq_zero_or_pos closedFor
      · exact absurd (by simpa using isLast.symm) notSame
      · have isNone : (others ++ some phase ::
            List.replicate closedFor none).getLast? = some none := by
          rw [← List.singleton_append, ← List.append_assoc]
          exact getLast?_append_replicate isClosed
        rw [isNone] at isLast
        simp at isLast
  · refine ⟨earlier, count + 1, ?_, isFirst, by simp, ?_⟩
    · rw [isServed, List.append_assoc, ← List.replicate_succ']
    · have shownLater : Signal.shown clearance dt
          { signal with time_in_phase := signal.time_in_phase + dt } =
          signal.shown clearance dt + dt := by
        simp only [Signal.shown, Signal.lead]
        ring
      rw [shownLater, ← isShown]
      push_cast
      ring

/-- The green that the ticks end in has been shown for long enough when its time
has come. -/
theorem Shows.ends (isLong : minGreen ≤ signal.shown clearance dt) {others : List (Option Int)}
    {phase : Int} {shown : Nat} (same : served = others ++ List.replicate shown (some phase))
    (isShown : 0 < shown) (isFirst : others.getLast? ≠ some (some phase)) :
    minGreen ≤ shown * dt := by
  obtain ⟨earlier, count, isServed, isOtherFirst, isFresh, isTime⟩ := shows_.open_ isOpen
  have isLast := congrArg List.getLast? (isServed.symm.trans same)
  rw [getLast?_append_replicate isShown] at isLast
  obtain rfl | isPositive := Nat.eq_zero_or_pos count
  · simp [isFresh rfl] at isLast
  · rw [getLast?_append_replicate isPositive, Option.some.injEq, Option.some.injEq] at isLast
    subst isLast
    obtain ⟨rfl, _⟩ := replicate_append_inj (isServed.symm.trans same) isOtherFirst isFirst
    rwa [isTime]

end

variable (shows_ : Shows minGreen clearance dt served signal)

include shows_

theorem Shows.changes (dtPositive : 0 < dt)
    (isOpen : ¬ 0 < signal.clear_left) (isLong : minGreen ≤ signal.shown clearance dt)
    (isOther : want ≠ signal.phase) (isFree : clearance ≤ 0) :
    Shows minGreen clearance dt (served ++ [some want]) { signal with
        switches := signal.switches + 1, phase := want, time_in_phase := dt } := by
  obtain ⟨earlier, count, isServed, _, isFresh, _⟩ := shows_.open_ isOpen
  refine ⟨shows_.green.append ?_, shows_.clear.append ?_, fun _ => ?_,
    fun isClosed => absurd isClosed isOpen⟩
  · intro others phase shown same isShown isFirst _
    exact shows_.ends isOpen isLong same isShown isFirst
  · intro others phase closedFor other _ _ _
    exact isFree.trans (mul_nonneg (Nat.cast_nonneg _) dtPositive.le)
  · refine ⟨served, 1, rfl, ?_, by simp, ?_⟩
    · rw [isServed]
      obtain rfl | isPositive := Nat.eq_zero_or_pos count
      · simp [isFresh rfl]
      · rw [getLast?_append_replicate isPositive]
        simpa using isOther.symm
    · simp [Signal.shown, Signal.lead, not_lt.mpr isFree]

theorem Shows.closes
    (isOpen : ¬ 0 < signal.clear_left) (isLong : minGreen ≤ signal.shown clearance dt)
    (isPositive : 0 < clearance) : Shows minGreen clearance dt (served ++ [none]) { signal with
        switches := signal.switches + 1, pending := want,
        clear_left := clearance } := by
  obtain ⟨earlier, count, isServed, _, isFresh, _⟩ := shows_.open_ isOpen
  refine ⟨shows_.green.append ?_, shows_.clear.append (by simp),
    fun notClosed => absurd isPositive notClosed, fun _ => ?_⟩
  · intro others phase shown same isShown isFirst _
    exact shows_.ends isOpen isLong same isShown isFirst
  · refine ⟨served, 1, rfl, ?_, Nat.one_pos, by simp, isPositive, Nat.succ_pos _⟩
    intro last isLast
    rw [isServed] at isLast
    obtain rfl | isShown := Nat.eq_zero_or_pos count
    · simp [isFresh rfl] at isLast
    · rw [getLast?_append_replicate isShown] at isLast
      exact (Option.some.inj isLast).symm

/-- A tick keeps what a node shows and leaves what is asked of it fitting for the
ticks after. -/
theorem Shows.update (dtPositive : 0 < dt) (isExact : ClearanceExact clearance dt) {ticks : Nat}
    (fits : Fits minGreen clearance dt want (ticks + 1) signal)
    (isUpdate : signal.update clearance dt want = some after) :
    Shows minGreen clearance dt (served ++ [after.served]) after ∧
      (0 < ticks → Fits minGreen clearance dt want ticks after) := by
  obtain ⟨isClosed, isEnd, rfl⟩ | ⟨isClosed, isLeft, rfl⟩ | ⟨isOpen, rfl, rfl⟩ |
    ⟨isOpen, isOther, isFree, rfl⟩ | ⟨isOpen, isOther, isPositive, rfl⟩ :=
    Signal.update_cases isUpdate
  · refine ⟨by simpa [Signal.served] using shows_.opens isExact isClosed isEnd,
      fun isMore => ⟨fun _ isOther => ?_, by simp⟩⟩
    obtain isPending | isShort | isLasting := fits.closed isClosed
    · exact absurd isPending isOther
    · obtain ⟨_, _, _, _, _, _, isPositive, isSwitched⟩ := shows_.closed isClosed
      simpa [Signal.shown, Signal.lead, isPositive, isSwitched] using isShort
    · have atLeast : dt ≤ ticks * dt :=
        le_mul_of_one_le_left dtPositive.le (by exact_mod_cast isMore)
      push_cast at isLasting
      linarith
  · have isStill : 0 < signal.clear_left - dt := timeTolerance_pos.trans isLeft
    refine ⟨shows_.stays_closed isClosed isLeft,
      fun _ => ⟨fun notClosed => absurd isStill notClosed, fun _ => ?_⟩⟩
    obtain isPending | isShort | isLasting := fits.closed isClosed
    · exact Or.inl isPending
    · exact Or.inr (Or.inl isShort)
    · refine Or.inr (Or.inr ?_)
      push_cast at isLasting
      linarith
  · refine ⟨by simpa [Signal.served, isOpen] using shows_.stays_open isOpen,
      fun _ => ⟨fun _ isOther => absurd rfl isOther, fun isClosed => absurd isClosed isOpen⟩⟩
  · refine ⟨by
      simpa [Signal.served, isOpen] using
        shows_.changes dtPositive isOpen (fits.open_ isOpen isOther) isOther isFree,
      fun _ => ⟨fun _ isOther => absurd rfl isOther, fun isClosed => absurd isClosed isOpen⟩⟩
  · refine ⟨by
      simpa [Signal.served, isPositive] using
        shows_.closes isOpen (fits.open_ isOpen isOther) isPositive,
      fun _ => ⟨fun notClosed => absurd isPositive notClosed, fun _ => Or.inl rfl⟩⟩

end Signal

end UrbanFlow.Networks
