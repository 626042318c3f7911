import UrbanFlow.Core.Enums

/-!
# Rounding half to even

Rounding keeps the order, and what is a decimal already. Of two numbers with an even
sum the one is rounded up by as much as the other is rounded down.
-/

namespace UrbanFlow

section

variable {K : Type*} [Field K] [LinearOrder K] [IsStrictOrderedRing K] [FloorRing K]

/-- The nearest integer, the even one of two. -/
def nearestEven (x : K) : ℤ :=
  let below := ⌊x⌋
  let rest := x - below
  if rest + rest < 1 then below
  else if 1 < rest + rest then below + 1
  else if below % 2 = 0 then below else below + 1

def nearestDecimal (base : K) (x : K) (digits : Nat) : K :=
  nearestEven (x * base ^ digits) / base ^ digits

/-- Rounding is at most half away. -/
theorem abs_nearestEven_sub_le (x : K) :
    |((nearestEven x : ℤ) : K) - x| + |((nearestEven x : ℤ) : K) - x| ≤ 1 := by
  have below := Int.floor_le x
  have above := Int.lt_floor_add_one x
  have isClose : -1 ≤ (((nearestEven x : ℤ) : K) - x) + (((nearestEven x : ℤ) : K) - x) ∧
      (((nearestEven x : ℤ) : K) - x) + (((nearestEven x : ℤ) : K) - x) ≤ 1 := by
    dsimp only [nearestEven]
    split_ifs <;> constructor <;> push_cast <;> linarith
  rcases abs_cases (((nearestEven x : ℤ) : K) - x) with ⟨isAbs, -⟩ | ⟨isAbs, -⟩
  · rw [isAbs]
    exact isClose.2
  · rw [isAbs]
    linarith [isClose.1]

theorem nearestEven_mono {x y : K} (le : x ≤ y) : nearestEven x ≤ nearestEven y := by
  have belowX := Int.floor_le x
  have aboveX := Int.lt_floor_add_one x
  have belowY := Int.floor_le y
  have aboveY := Int.lt_floor_add_one y
  obtain same | less := (Int.floor_mono le).eq_or_lt
  · dsimp only [nearestEven]
    rw [same] at belowX aboveX ⊢
    split_ifs <;> first | omega | (exfalso; linarith)
  · have apart : ((⌊x⌋ : ℤ) : K) + 1 ≤ ⌊y⌋ := by exact_mod_cast less
    dsimp only [nearestEven]
    split_ifs <;> omega

theorem nearestDecimal_mono {base : K} (isPositive : 0 < base) {x y : K} (le : x ≤ y)
    (digits : Nat) : nearestDecimal base x digits ≤ nearestDecimal base y digits := by
  have isScale : 0 < base ^ digits := pow_pos isPositive digits
  have scaled := nearestEven_mono (mul_le_mul_of_nonneg_right le isScale.le)
  exact div_le_div_of_nonneg_right (Int.cast_le.mpr scaled) isScale.le

/-- Rounding to decimals is at most half of the last one away. -/
theorem abs_nearestDecimal_sub_le {base : K} (isPositive : 0 < base) (x : K) (digits : Nat) :
    |nearestDecimal base x digits - x| + |nearestDecimal base x digits - x| ≤
      1 / base ^ digits := by
  have isScale : 0 < base ^ digits := pow_pos isPositive digits
  have isClose := abs_nearestEven_sub_le (x * base ^ digits)
  have isScaled : nearestDecimal base x digits - x =
      (nearestEven (x * base ^ digits) - x * base ^ digits) / base ^ digits := by
    unfold nearestDecimal
    field_simp
  rw [isScaled, abs_div, abs_of_pos isScale, ← add_div]
  exact div_le_div_of_nonneg_right isClose isScale.le

end

variable {x y : ℚ} {sum : ℤ} {digits : Nat}

theorem roundHalfEven_eq_nearestEven (x : ℚ) : roundHalfEven x = nearestEven x := by
  unfold roundHalfEven nearestEven
  dsimp only
  split_ifs <;> first | rfl | (exfalso; linarith)

@[simp] theorem roundHalfEven_intCast (n : ℤ) : roundHalfEven n = n := by simp [roundHalfEven]

theorem roundHalfEven_mono (le : x ≤ y) : roundHalfEven x ≤ roundHalfEven y := by
  rw [roundHalfEven_eq_nearestEven, roundHalfEven_eq_nearestEven]
  exact nearestEven_mono le

theorem roundHalfEven_add_of_even (isSum : x + y = sum) (isEven : Even sum) :
    roundHalfEven x + roundHalfEven y = sum := by
  obtain ⟨_, _⟩ := isEven
  have below := Int.floor_le x
  have above := Int.lt_floor_add_one x
  by_cases isInteger : x = ⌊x⌋
  · have isOther : y = ((sum - ⌊x⌋ : ℤ) : ℚ) := by
      push_cast
      linarith
    rw [isOther, isInteger, roundHalfEven_intCast, roundHalfEven_intCast, Int.floor_intCast]
    ring
  · have isOther : ⌊y⌋ = sum - ⌊x⌋ - 1 := by
      rw [Int.floor_eq_iff]
      have inside := lt_of_le_of_ne below (Ne.symm isInteger)
      push_cast
      constructor <;> linarith
    have isRest : y - (sum - ⌊x⌋ - 1 : ℤ) = 1 - (x - ⌊x⌋) := by
      push_cast
      linarith
    dsimp only [roundHalfEven]
    rw [isOther, isRest]
    split_ifs <;> first | omega | (exfalso; linarith)

/-- A number of so many decimals. -/
def IsDecimal (digits : Nat) (x : ℚ) : Prop := ∃ n : ℤ, x = n / 10 ^ digits

theorem isDecimal_pyRound (x : ℚ) (digits : Nat) : IsDecimal digits (pyRound x digits) := ⟨_, rfl⟩

theorem isDecimal_intCast (n : ℤ) (digits : Nat) : IsDecimal digits (n : ℚ) := by
  refine ⟨n * 10 ^ digits, ?_⟩
  push_cast
  field_simp

theorem IsDecimal.pyRound (isDecimal : IsDecimal digits x) : pyRound x digits = x := by
  obtain ⟨n, rfl⟩ := isDecimal
  have isInteger : (n : ℚ) / 10 ^ digits * 10 ^ digits = n := by field_simp
  unfold UrbanFlow.pyRound
  rw [isInteger, roundHalfEven_intCast]

theorem pyRound_mono (le : x ≤ y) (digits : Nat) : pyRound x digits ≤ pyRound y digits := by
  have scaled : x * 10 ^ digits ≤ y * 10 ^ digits := mul_le_mul_of_nonneg_right le (by positivity)
  have rounded : (roundHalfEven (x * 10 ^ digits) : ℚ) ≤ roundHalfEven (y * 10 ^ digits) := by
    exact_mod_cast roundHalfEven_mono scaled
  exact div_le_div_of_nonneg_right rounded (by positivity)

theorem pyRound_mem {low high : ℚ} (isLow : IsDecimal digits low) (isHigh : IsDecimal digits high)
    (low_le : low ≤ x) (le_high : x ≤ high) : low ≤ pyRound x digits ∧ pyRound x digits ≤ high := by
  rw [← isLow.pyRound, ← isHigh.pyRound]
  exact ⟨pyRound_mono low_le digits, pyRound_mono le_high digits⟩

/-- Two numbers whose sum is an even number of the last decimals are rounded to it. -/
theorem pyRound_add_of_even (isSum : x + y = sum / 10 ^ digits) (isEven : Even sum) :
    pyRound x digits + pyRound y digits = x + y := by
  have isScaled : x * 10 ^ digits + y * 10 ^ digits = sum := by
    rw [← add_mul, isSum]
    field_simp
  have rounded : (roundHalfEven (x * 10 ^ digits) : ℚ) + roundHalfEven (y * 10 ^ digits) =
      sum := by
    exact_mod_cast roundHalfEven_add_of_even isScaled isEven
  unfold pyRound
  rw [← add_div, rounded, isSum]

end UrbanFlow
