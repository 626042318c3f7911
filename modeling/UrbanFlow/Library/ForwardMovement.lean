import Mathlib

/-!
# Movement of a sequence

How far a sequence moves forward in all, and how often a list of positions steps down.
-/

/-!
## Forward movement

How far a sequence moves forward in all: its steps forward added up, its steps back
left out. Between two of its terms it moves at least as far as they lie apart, and
exactly as far where it never steps back.
-/

namespace ForwardMovement

variable {Value : Type*} [AddCommGroup Value] [LinearOrder Value]

section

variable (sequence : Nat → Value)

/-- The forward movement of a sequence up to a term. -/
def ascent (last : Nat) : Value :=
  ∑ index ∈ Finset.range last, max 0 (sequence (index + 1) - sequence index)

@[simp] theorem ascent_zero : ascent sequence 0 = 0 := Finset.sum_range_zero _

theorem ascent_succ (last : Nat) : ascent sequence (last + 1) =
      ascent sequence last + max 0 (sequence (last + 1) - sequence last) :=
  Finset.sum_range_succ _ _

end

variable [IsOrderedAddMonoid Value]

section

variable (sequence : Nat → Value)

/-- The forward movement only grows. -/
theorem ascent_mono : Monotone (ascent sequence) := by
  apply monotone_nat_of_le_succ
  intro last
  rw [ascent_succ]
  exact le_add_of_nonneg_right (le_max_left _ _)

theorem ascent_nonneg (last : Nat) : 0 ≤ ascent sequence last := by
  rw [← ascent_zero sequence]
  exact ascent_mono sequence (Nat.zero_le last)

/-- Two terms lie no further apart than the movement between them. -/
theorem ascent_add_sub_le {first last : Nat} (inOrder : first ≤ last) :
    ascent sequence first + max 0 (sequence last - sequence first) ≤ ascent sequence last := by
  induction last, inOrder using Nat.le_induction with
  | base => simp
  | succ middle _ ih =>
    rw [ascent_succ]
    have split : max 0 (sequence (middle + 1) - sequence first) ≤
          max 0 (sequence middle - sequence first) +
            max 0 (sequence (middle + 1) - sequence middle) := by
      apply max_le
      · exact add_nonneg (le_max_left _ _) (le_max_left _ _)
      · calc
          sequence (middle + 1) - sequence first = (sequence middle - sequence first) +
                  (sequence (middle + 1) - sequence middle) := by abel
          _ ≤ _ := add_le_add (le_max_right _ _) (le_max_right _ _)
    calc
      ascent sequence first + max 0 (sequence (middle + 1) - sequence first)
          ≤ ascent sequence first + (max 0 (sequence middle - sequence first) +
                max 0 (sequence (middle + 1) - sequence middle)) :=
        add_le_add_right split _
      _ = (ascent sequence first + max 0 (sequence middle - sequence first)) +
            max 0 (sequence (middle + 1) - sequence middle) :=
        (add_assoc _ _ _).symm
      _ ≤ _ := add_le_add_left ih _

/-- A sequence that never steps back moves from its first term to its last. -/
theorem ascent_of_forward (last : Nat)
    (forward : ∀ index < last, sequence index ≤ sequence (index + 1)) :
    ascent sequence last = sequence last - sequence 0 := by
  induction last with
  | zero => simp
  | succ last ih =>
    rw [ascent_succ, ih fun index below => forward index (Nat.lt_succ_of_lt below),
      max_eq_right (sub_nonneg.mpr (forward last (Nat.lt_succ_self last)))]
    abel

end

end ForwardMovement

/-!
## Descents

How often a list of positions steps down, counted by the kind of position it steps
down to. Along a walk on a cyclic list of positions these are the passes of its end.
-/

namespace Descents

variable {Position : Type*} [LinearOrder Position]

/-- How often a list steps down to a position of a kind. -/
def descents (kind : Position → Bool) : List Position → Nat
  | first :: second :: rest =>
    (if second < first ∧ kind second = true then 1 else 0) + descents kind (second :: rest)
  | _ => 0

section

variable (kind : Position → Bool)

@[simp] theorem descents_singleton (position : Position) : descents kind [position] = 0 := rfl

theorem descents_cons_cons (first second : Position) (rest : List Position) :
    descents kind (first :: second :: rest) =
      (if second < first ∧ kind second = true then 1 else 0) + descents kind (second :: rest) :=
  rfl

theorem descents_append (before : List Position) (last : Position) (after : List Position) :
    descents kind (before ++ last :: after) =
      descents kind (before ++ [last]) + descents kind (last :: after) := by
  induction before with
  | nil => simp
  | cons _ before ih =>
    cases before with
    | nil => simp [descents_cons_cons]
    | cons =>
      simp only [List.cons_append, descents_cons_cons] at ih ⊢
      rw [ih, Nat.add_assoc]

end

end Descents
