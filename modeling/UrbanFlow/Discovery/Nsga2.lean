import Mathlib.Algebra.Order.Field.Rat
import Mathlib.Data.Finset.Card
import Mathlib.Data.List.FinRange

/-!
# Ranking points by several objectives

Constrained domination, fronts, crowding distance, survivor selection and the
binary tournament. All objectives are minimised; an infeasible point has none.
-/

namespace UrbanFlow.Nsga2

/-- The values of a point in `m` objectives. -/
abbrev Objectives (m : Nat) : Type := Fin m → ℚ

variable {m : Nat}

def Dominates (a b : Objectives m) : Prop := (∀ k, a k ≤ b k) ∧ ∃ k, a k < b k

instance (a b : Objectives m) : Decidable (Dominates a b) := inferInstanceAs (Decidable (_ ∧ _))

/-- Domination where `none` is an infeasible point. -/
def ConstrainedDominates : Option (Objectives m) → Option (Objectives m) → Prop
  | none, _ => False
  | some _, none => True
  | some a, some b => Dominates a b

instance : (a b : Option (Objectives m)) → Decidable (ConstrainedDominates a b)
  | none, _ => inferInstanceAs (Decidable False)
  | some _, none => inferInstanceAs (Decidable True)
  | some a, some b => inferInstanceAs (Decidable (Dominates a b))

/-- The point at an index. -/
def pointAt (points : List (Option (Objectives m))) (i : Nat) : Option (Objectives m) :=
  points.getD i none

section

variable (points : List (Option (Objectives m)))

/-- `dominated_by[i]`. -/
def dominatedBy (i : Nat) : List Nat := (List.range points.length).filter fun j =>
    i ≠ j ∧ ConstrainedDominates (pointAt points i) (pointAt points j)

/-- `counts[i]`, before any front is taken. -/
def initialCount (i : Nat) : Int := (List.range points.length).countP fun j =>
    i ≠ j ∧ ¬ ConstrainedDominates (pointAt points i) (pointAt points j) ∧
      ConstrainedDominates (pointAt points j) (pointAt points i)

/-- One dominator of `j` is taken: `counts[j] -= 1`, and `j` is next once none is
left. -/
def discount (state : (Nat → Int) × List Nat) (j : Nat) : (Nat → Int) × List Nat :=
  let counts := Function.update state.1 j (state.1 j - 1)
  (counts, if counts j = 0 then state.2 ++ [j] else state.2)

/-- The counts once a front is taken, and the indexes that come next. -/
def takeFront (counts : Nat → Int) (front : List Nat) : (Nat → Int) × List Nat :=
  (front.flatMap (dominatedBy points)).foldl discount (counts, [])

/-- The indexes that still wait for a dominator. -/
def waiting (size : Nat) (counts : Nat → Int) : Finset Nat :=
  (Finset.range size).filter fun j => 0 < counts j

/-- Each index that comes next had waited. -/
theorem waiting_discount {size : Nat} (dominated : List Nat) (inRange : ∀ j ∈ dominated, j < size)
    (state : (Nat → Int) × List Nat) : (waiting size (dominated.foldl discount state).1).card +
        (dominated.foldl discount state).2.length ≤
      (waiting size state.1).card + state.2.length := by
  induction dominated generalizing state with
  | nil => exact le_rfl
  | cons j _ ih =>
    rw [List.foldl_cons]
    refine (ih (fun other member => inRange other (List.mem_cons_of_mem _ member))
      (discount state j)).trans ?_
    have shrinks : waiting size (discount state j).1 ⊆ waiting size state.1 := by
      intro i member
      unfold waiting discount at *
      simp only [Finset.mem_filter, Function.update_apply] at member ⊢
      refine ⟨member.1, ?_⟩
      split at member
      · next same =>
          subst same
          omega
      · exact member.2
    by_cases isNext : state.1 j = 1
    · have wasWaiting : j ∈ waiting size state.1 := by
        simp [waiting, inRange j List.mem_cons_self, isNext]
      have isGone : j ∉ waiting size (discount state j).1 := by
        unfold waiting discount
        simp [isNext]
      have fewer := Finset.card_lt_card (Finset.ssubset_iff_subset_ne.mpr
          ⟨shrinks, fun same => isGone (same ▸ wasWaiting)⟩)
      have longer : (discount state j).2.length = state.2.length + 1 := by simp [discount, isNext]
      omega
    · have noLonger : (discount state j).2 = state.2 := by
        dsimp only [discount]
        rw [Function.update_self, if_neg (by omega)]
      rw [noLonger]
      exact Nat.add_le_add_right (Finset.card_le_card shrinks) _

theorem dominatedBy_lt {i j : Nat} (member : j ∈ dominatedBy points i) : j < points.length :=
  List.mem_range.mp (List.mem_filter.mp member).1

/-- `sorted` of a list of indexes. -/
def sorted (indexes : List Nat) : List Nat := indexes.mergeSort

theorem sorted_length (indexes : List Nat) : (sorted indexes).length = indexes.length :=
  List.length_mergeSort indexes

theorem mem_sorted {indexes : List Nat} {i : Nat} : i ∈ sorted indexes ↔ i ∈ indexes :=
  List.mem_mergeSort

theorem waiting_takeFront (counts : Nat → Int) (front : List Nat) :
    (waiting points.length (takeFront points counts front).1).card +
        (takeFront points counts front).2.length ≤ (waiting points.length counts).card := by
  refine waiting_discount _ (fun j member => ?_) (counts, [])
  obtain ⟨i, _, dominated⟩ := List.mem_flatMap.mp member
  exact dominatedBy_lt points dominated

end

/-- The loop over the fronts: a front that is not empty is followed by the
indexes that wait for no other dominator. -/
def frontsFrom (points : List (Option (Objectives m))) (counts : Nat → Int)
    (front : List Nat) : List (List Nat) :=
  if front = [] then []
  else front :: frontsFrom points (takeFront points counts front).1
      (sorted (takeFront points counts front).2)
termination_by 2 * (waiting points.length counts).card + min 1 front.length
decreasing_by
  have fewer := waiting_takeFront points counts front
  have isSome : 0 < front.length := by
    rename_i notEmpty
    exact List.length_pos_iff.mpr notEmpty
  rw [sorted_length]
  omega

def nonDominatedSort (points : List (Option (Objectives m))) : List (List Nat) :=
  frontsFrom points (initialCount points)
    ((List.range points.length).filter fun i => initialCount points i = 0)

section

variable {points : List (Option (Objectives m))}

theorem frontsFrom_lt {counts : Nat → Int} {front : List Nat}
    (inRange : ∀ i ∈ front, i < points.length) :
    ∀ other ∈ frontsFrom points counts front, ∀ i ∈ other, i < points.length := by
  induction counts, front using frontsFrom.induct points with
  | case1 =>
    intro other member
    rw [frontsFrom, if_pos rfl] at member
    exact absurd member List.not_mem_nil
  | case2 _ _ notEmpty ih =>
    intro other member
    rw [frontsFrom, if_neg notEmpty] at member
    rcases List.mem_cons.mp member with rfl | later
    · exact inRange
    · refine ih (fun i isNext => ?_) other later
      rw [mem_sorted] at isNext
      have fromDominated (dominated : List Nat) (state : (Nat → Int) × List Nat)
          (isOf : i ∈ (dominated.foldl discount state).2) :
          i ∈ state.2 ∨ i ∈ dominated := by
        induction dominated generalizing state with
        | nil => exact .inl isOf
        | cons j _ hypothesis =>
          rcases hypothesis (discount state j) isOf with earlier | later
          · dsimp only [discount] at earlier
            split at earlier
            · rcases List.mem_append.mp earlier with old | isNew
              · exact .inl old
              · rw [List.mem_singleton.mp isNew]
                exact .inr List.mem_cons_self
            · exact .inl earlier
          · exact .inr (List.mem_cons_of_mem _ later)
      rcases fromDominated _ _ isNext with none | isDominated
      · exact absurd none List.not_mem_nil
      · obtain ⟨_, _, dominated⟩ := List.mem_flatMap.mp isDominated
        exact dominatedBy_lt points dominated

theorem nonDominatedSort_lt {front : List Nat}
    (member : front ∈ nonDominatedSort points) : ∀ i ∈ front, i < points.length := by
  refine frontsFrom_lt (fun i isFirst => ?_) front member
  exact List.mem_range.mp (List.mem_filter.mp isFirst).1

end

section

variable (points : List (Option (Objectives m)))

/-- The value of a point in one objective; `()` stands for an infeasible one. -/
def valueAt (k : Fin m) (i : Nat) : ℚ := (pointAt points i).elim 0 fun point => point k

/-- The indexes of a front by their value in one objective, ties by index. -/
def orderedBy (k : Fin m) (front : List Nat) : List Nat := front.mergeSort fun i j =>
    valueAt points k i < valueAt points k j ∨ (valueAt points k i = valueAt points k j ∧ i ≤ j)

/-- The gaps between the neighbours of each index that has two. -/
def addGaps (value : Nat → ℚ) (span : ℚ) : (Nat → WithTop ℚ) → List Nat → Nat → WithTop ℚ
  | distance, before :: i :: after :: rest =>
    addGaps value span (Function.update distance i
        (distance i + ((value after - value before) / span : ℚ)))
      (i :: after :: rest)
  | distance, _ => distance

section

variable (front : List Nat)

/-- The distances with those of one objective added. -/
def addObjective (distance : Nat → WithTop ℚ) (k : Fin m) : Nat → WithTop ℚ :=
  let ordered := orderedBy points k front
  let first := ordered.headD 0
  let last := ordered.getLastD 0
  let distance := Function.update (Function.update distance first ⊤) last ⊤
  let span := valueAt points k last - valueAt points k first
  if span ≤ 0 then distance
  else addGaps (valueAt points k) span distance ordered

/-- `crowding_distance`; an index outside the front has distance 0. -/
def crowdingDistance : Nat → WithTop ℚ :=
  if front.length ≤ 2 then fun i => if i ∈ front then ⊤ else 0
  else (List.finRange m).foldl (addObjective points front) fun _ => 0

/-- The indexes of a front that are feasible. -/
def feasible : List Nat := front.filter fun i => (pointAt points i).isSome

end

def rankAndCrowding : (Nat → Nat) × (Nat → WithTop ℚ) :=
  (nonDominatedSort points).zipIdx.foldl (fun (rank, crowd) (front, r) =>
      let distance := crowdingDistance points (feasible points front)
      (fun i => if i ∈ front then r else rank i, fun i =>
          if i ∈ front then if i ∈ feasible points front then distance i else 0
          else crowd i))
    (fun _ => 0, fun _ => 0)

end

/-- The loop of `select_survivors` over the fronts, with those chosen before. -/
def selectFrom (points : List (Option (Objectives m)))
    (size : Nat) : List (List Nat) → List Nat → List Nat
  | [], chosen => chosen
  | front :: fronts, chosen =>
    let good := feasible points front
    let others := front.filter fun i => ¬ (pointAt points i).isSome
    if chosen.length + front.length ≤ size then
      selectFrom points size fronts (chosen ++ (good ++ others))
    else
      let distance := crowdingDistance points good
      let ordered := good.mergeSort fun i j =>
        distance j < distance i ∨ (distance i = distance j ∧ i ≤ j)
      chosen ++ (ordered ++ others).take (size - chosen.length)

section

variable (points : List (Option (Objectives m)))

def selectSurvivors (size : Nat) : List Nat := selectFrom points size (nonDominatedSort points) []

theorem feasible_split (front : List Nat) :
    (feasible points front).length + (front.filter fun i => ¬ (pointAt points i).isSome).length =
      front.length := by
  unfold feasible
  rw [← List.countP_eq_length_filter, ← List.countP_eq_length_filter,
    List.length_eq_countP_add_countP fun i => (pointAt points i).isSome]

end

theorem selectFrom_length {points : List (Option (Objectives m))} {size : Nat}
    (fronts : List (List Nat)) (chosen : List Nat) (fits : chosen.length ≤ size) :
    (selectFrom points size fronts chosen).length ≤ size := by
  induction fronts generalizing chosen with
  | nil => exact fits
  | cons _ _ ih =>
    dsimp only [selectFrom]
    split
    · apply ih
      rw [List.length_append, List.length_append, feasible_split]
      assumption
    · rw [List.length_append, List.length_take]
      omega

/-- At most as many survive as there is room for. -/
theorem selectSurvivors_length (points : List (Option (Objectives m))) (size : Nat) :
    (selectSurvivors points size).length ≤ size :=
  selectFrom_length _ [] (Nat.zero_le size)

section

variable {points : List (Option (Objectives m))}

theorem selectFrom_lt {size limit : Nat} {fronts : List (List Nat)} {chosen : List Nat}
    (frontsInRange : ∀ front ∈ fronts, ∀ i ∈ front, i < limit)
    (chosenInRange : ∀ i ∈ chosen, i < limit) :
    ∀ i ∈ selectFrom points size fronts chosen, i < limit := by
  induction fronts generalizing chosen with
  | nil => exact chosenInRange
  | cons front _ ih =>
    have ofFront := frontsInRange front List.mem_cons_self
    dsimp only [selectFrom]
    split
    · apply ih fun other member =>
        frontsInRange other (List.mem_cons_of_mem _ member)
      intro i member
      rcases List.mem_append.mp member with earlier | added
      · exact chosenInRange i earlier
      · rcases List.mem_append.mp added with good | bad
        · exact ofFront i (List.mem_of_mem_filter good)
        · exact ofFront i (List.mem_of_mem_filter bad)
    · intro i member
      rcases List.mem_append.mp member with earlier | added
      · exact chosenInRange i earlier
      · rcases List.mem_append.mp (List.mem_of_mem_take added) with good | bad
        · exact ofFront i (List.mem_of_mem_filter (List.mem_mergeSort.mp good))
        · exact ofFront i (List.mem_of_mem_filter bad)

theorem selectSurvivors_lt {size : Nat} : ∀ i ∈ selectSurvivors points size, i < points.length :=
  selectFrom_lt (fun _ member => nonDominatedSort_lt member)
    nofun

end

/-- The better of two indexes: by rank, then by crowding distance, then the
lower. -/
def better (rank : Nat → Nat) (crowd : Nat → WithTop ℚ) (a b : Nat) : Nat :=
  if rank a ≠ rank b then if rank a < rank b then a else b
  else if crowd a ≠ crowd b then if crowd b < crowd a then a else b
  else min a b

end UrbanFlow.Nsga2
