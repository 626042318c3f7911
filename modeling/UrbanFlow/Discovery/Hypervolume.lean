import Mathlib

/-!
# The hypervolume of two objectives

`hypervolume_2d` sweeps over the points in the order of their first objective and adds a
rectangle for every point below the ones before it. Over integers it counts the unit cells
that some point dominates.
-/

namespace UrbanFlow.Nsga2

section Sweep

variable [LinearOrder α]

/-- The points within the reference, each once, in the order of tuples. A point is its
first two objectives. -/
def sweepOrder (points : List (α × α)) (reference : α × α) : List (α × α) :=
  (points.filter fun p => p.1 < reference.1 ∧ p.2 < reference.2).dedup.insertionSort
    fun p q => toLex p ≤ toLex q

theorem mem_sweepOrder {points : List (α × α)} {reference p : α × α} :
    p ∈ sweepOrder points reference ↔ p ∈ points ∧ p.1 < reference.1 ∧ p.2 < reference.2 := by
  simp [sweepOrder]

theorem pairwise_sweepOrder (points : List (α × α)) (reference : α × α) :
    (sweepOrder points reference).Pairwise fun p q => p.1 ≤ q.1 := by
  have sorted : (sweepOrder points reference).Pairwise fun p q => toLex p ≤ toLex q :=
    List.pairwise_insertionSort _ _
  apply sorted.imp
  intro p q before
  rcases Prod.Lex.toLex_le_toLex.mp before with less | ⟨same, -⟩
  · exact less.le
  · exact same.le

variable [Ring α]

/-- One point of the sweep; the state is the area and the best second objective. -/
def sweepPoint (reference : α × α) (state p : α × α) : α × α := if p.2 < state.2 then
    (state.1 + (reference.1 - p.1) * (state.2 - p.2), p.2)
  else state

def hypervolume2d (points : List (α × α)) (reference : α × α) : α :=
  ((sweepOrder points reference).foldl (sweepPoint reference) (0, reference.2)).1

end Sweep

/-- The unit cells that a point dominates within the reference. -/
noncomputable def dominatedCells (reference p : ℤ × ℤ) : Finset (ℤ × ℤ) :=
  Finset.Ico p.1 reference.1 ×ˢ Finset.Ico p.2 reference.2

/-- The unit cells that some point dominates within the reference. -/
noncomputable def coveredCells (points : List (ℤ × ℤ)) (reference : ℤ × ℤ) : Finset (ℤ × ℤ) :=
  points.toFinset.biUnion (dominatedCells reference)

theorem mem_dominatedCells {reference p cell : ℤ × ℤ} : cell ∈ dominatedCells reference p ↔
      (p.1 ≤ cell.1 ∧ cell.1 < reference.1) ∧ p.2 ≤ cell.2 ∧ cell.2 < reference.2 := by
  simp [dominatedCells]

theorem mem_coveredCells {points : List (ℤ × ℤ)} {reference cell : ℤ × ℤ} :
    cell ∈ coveredCells points reference ↔ ∃ p ∈ points, (p.1 ≤ cell.1 ∧ cell.1 < reference.1) ∧
        p.2 ≤ cell.2 ∧ cell.2 < reference.2 := by
  simp [coveredCells, mem_dominatedCells]

theorem coveredCells_cons (p : ℤ × ℤ) (points : List (ℤ × ℤ)) (reference : ℤ × ℤ) :
    coveredCells (p :: points) reference =
      dominatedCells reference p ∪ coveredCells points reference := by
  simp [coveredCells, Finset.biUnion_insert]

theorem coveredCells_sweepOrder (points : List (ℤ × ℤ)) (reference : ℤ × ℤ) :
    coveredCells (sweepOrder points reference) reference = coveredCells points reference := by
  ext cell
  rw [mem_coveredCells, mem_coveredCells]
  constructor
  · rintro ⟨p, isSwept, covers⟩
    exact ⟨p, (mem_sweepOrder.mp isSwept).1, covers⟩
  · rintro ⟨p, isPoint, covers⟩
    have within : p.1 < reference.1 ∧ p.2 < reference.2 :=
      ⟨covers.1.1.trans_lt covers.1.2, covers.2.1.trans_lt covers.2.2⟩
    exact ⟨p, mem_sweepOrder.mpr ⟨isPoint, within⟩, covers⟩

/-- What holds of a sweep between two points: the cells reached lie above the best second
objective, and contain all the cells above it that a point to come dominates. -/
structure Reached (reference : ℤ × ℤ) (reached : Finset (ℤ × ℤ)) (best : ℤ)
    (rest : List (ℤ × ℤ)) : Prop where
  above : ∀ cell ∈ reached, best ≤ cell.2
  contains : ∀ p ∈ rest, ∀ cell, p.1 ≤ cell.1 → cell.1 < reference.1 →
    best ≤ cell.2 → cell.2 < reference.2 → cell ∈ reached

section

variable {reference p : ℤ × ℤ} {reached : Finset (ℤ × ℤ)} {best : ℤ} {rest : List (ℤ × ℤ)}

/-- A point below the best one adds a rectangle of new cells. -/
theorem Reached.extend (isReached : Reached reference reached best (p :: rest))
    (ordered : ∀ q ∈ rest, p.1 ≤ q.1) (below : p.2 < best) :
    Reached reference (reached ∪ Finset.Ico p.1 reference.1 ×ˢ Finset.Ico p.2 best) p.2 rest := by
  constructor
  · intro cell inCells
    rcases Finset.mem_union.mp inCells with old | new
    · exact below.le.trans (isReached.above cell old)
    · exact (Finset.mem_Ico.mp (Finset.mem_product.mp new).2).1
  · intro q inRest cell left right lower upper
    have fromPoint : p.1 ≤ cell.1 := (ordered q inRest).trans left
    apply Finset.mem_union.mpr
    rcases lt_or_ge cell.2 best with isNew | isOld
    · exact Or.inr (Finset.mem_product.mpr
        ⟨Finset.mem_Ico.mpr ⟨fromPoint, right⟩, Finset.mem_Ico.mpr ⟨lower, isNew⟩⟩)
    · exact Or.inl (isReached.contains p List.mem_cons_self cell fromPoint right isOld upper)

/-- The new cells of a point are as many as its rectangle has. -/
theorem Reached.card_extend (isReached : Reached reference reached best rest)
    (within : p.1 < reference.1) (below : p.2 < best) :
    ((reached ∪ Finset.Ico p.1 reference.1 ×ˢ Finset.Ico p.2 best).card : ℤ) =
      reached.card + (reference.1 - p.1) * (best - p.2) := by
  have disjoint : Disjoint reached (Finset.Ico p.1 reference.1 ×ˢ Finset.Ico p.2 best) := by
    apply Finset.disjoint_left.mpr
    intro cell old new
    have isBelow := (Finset.mem_Ico.mp (Finset.mem_product.mp new).2).2
    exact absurd (isReached.above cell old) (not_le.mpr isBelow)
  rw [Finset.card_union_of_disjoint disjoint, Finset.card_product, Int.card_Ico, Int.card_Ico]
  push_cast
  rw [Int.toNat_of_nonneg (by omega), Int.toNat_of_nonneg (by omega)]

end

theorem sweep_card {reference : ℤ × ℤ} {rest : List (ℤ × ℤ)}
    (within : ∀ p ∈ rest, p.1 < reference.1 ∧ p.2 < reference.2)
    (ordered : rest.Pairwise fun p q => p.1 ≤ q.1) {reached : Finset (ℤ × ℤ)} {best : ℤ}
    (isReached : Reached reference reached best rest) (bounded : best ≤ reference.2) :
    (rest.foldl (sweepPoint reference) (reached.card, best)).1 =
      ((reached ∪ coveredCells rest reference).card : ℤ) := by
  induction rest generalizing reached best with
  | nil => simp [coveredCells]
  | cons p rest ih =>
    obtain ⟨first, later⟩ := List.pairwise_cons.mp ordered
    obtain ⟨left, lower⟩ := within p List.mem_cons_self
    have restWithin : ∀ q ∈ rest, q.1 < reference.1 ∧ q.2 < reference.2 :=
      fun q inRest => within q (List.mem_cons_of_mem _ inRest)
    rw [List.foldl_cons, coveredCells_cons]
    by_cases below : p.2 < best
    · rw [sweepPoint, if_pos below, ← isReached.card_extend left below,
        ih restWithin later (isReached.extend first below) lower.le]
      congr 2
      ext cell
      simp only [Finset.mem_union, Finset.mem_product, Finset.mem_Ico, mem_dominatedCells]
      constructor
      · rintro ((old | ⟨inside, above, under⟩) | covered)
        · exact Or.inl old
        · exact Or.inr (Or.inl ⟨inside, above, under.trans_le bounded⟩)
        · exact Or.inr (Or.inr covered)
      · rintro (old | ⟨inside, above, under⟩ | covered)
        · exact Or.inl (Or.inl old)
        · rcases lt_or_ge cell.2 best with isNew | isOld
          · exact Or.inl (Or.inr ⟨inside, above, isNew⟩)
          · exact Or.inl (Or.inl (isReached.contains p List.mem_cons_self cell
              inside.1 inside.2 isOld under))
        · exact Or.inr covered
    · have covered : dominatedCells reference p ⊆ reached := by
        intro cell dominated
        obtain ⟨inside, above, under⟩ := mem_dominatedCells.mp dominated
        exact isReached.contains p List.mem_cons_self cell inside.1 inside.2
          ((not_lt.mp below).trans above) under
      rw [sweepPoint, if_neg below, ← Finset.union_assoc, Finset.union_eq_left.mpr covered]
      exact ih restWithin later ⟨isReached.above, fun q inRest =>
          isReached.contains q (List.mem_cons_of_mem _ inRest)⟩ bounded

theorem hypervolume2d_eq_card (points : List (ℤ × ℤ)) (reference : ℤ × ℤ) :
    hypervolume2d points reference = ((coveredCells points reference).card : ℤ) := by
  have nothingReached : Reached reference ∅ reference.2 (sweepOrder points reference) := by
    constructor
    · simp
    · intro p _ cell _ _ above under
      exact absurd above (not_le.mpr under)
  have swept := sweep_card (fun p isSwept => (mem_sweepOrder.mp isSwept).2)
    (pairwise_sweepOrder points reference) nothingReached le_rfl
  rw [coveredCells_sweepOrder, Finset.empty_union, Finset.card_empty, Nat.cast_zero] at swept
  exact swept

example : hypervolume2d [(1, 3), (2, 1), (2, 1), (3, 3)] ((4, 4) : ℤ × ℤ) = 7 := by decide

end UrbanFlow.Nsga2
