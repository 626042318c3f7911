import Mathlib.Algebra.Order.BigOperators.Group.List
import UrbanFlow.Discovery.Nsga2
import UrbanFlow.Library.Layers

/-!
# Fronts and survivors

The fronts of the sort are the layers of the points under constrained domination: a
point waits for as many dominators as are of no earlier layer, so taking a front
releases the next layer. Survivors are taken front by front.
-/

namespace UrbanFlow.Nsga2

open Layers

variable {m : Nat}

/-! ## Constrained domination is a strict order -/

theorem ConstrainedDominates.irrefl (a : Option (Objectives m)) : ¬ ConstrainedDominates a a := by
  cases a with
  | none => exact id
  | some a =>
    rintro ⟨_, k, better⟩
    exact lt_irrefl (a k) better

theorem ConstrainedDominates.trans {a b c : Option (Objectives m)}
    (first : ConstrainedDominates a b) (second : ConstrainedDominates b c) :
    ConstrainedDominates a c := by
  cases a with
  | none => exact first
  | some =>
    cases c with
    | none => trivial
    | some =>
      cases b with
      | none => exact absurd second id
      | some =>
        obtain ⟨noWorse, k, better⟩ := first
        exact ⟨fun l => (noWorse l).trans (second.1 l), k, better.trans_le (second.1 k)⟩

theorem ConstrainedDominates.asymm {a b : Option (Objectives m)}
    (first : ConstrainedDominates a b) : ¬ ConstrainedDominates b a :=
  fun second => ConstrainedDominates.irrefl a (first.trans second)

section

variable (points : List (Option (Objectives m)))

/-- One of the points beats that at an index. -/
def Beats (j i : Nat) : Prop :=
  j < points.length ∧ ConstrainedDominates (pointAt points j) (pointAt points i)

/-- The points that beat that at an index. -/
def beaters (i : Nat) : Finset Nat := (Finset.range points.length).filter fun j =>
    ConstrainedDominates (pointAt points j) (pointAt points i)

end

theorem mem_beaters {points : List (Option (Objectives m))} {i j : Nat} :
    j ∈ beaters points i ↔ Beats points j i := by
  rw [beaters, Finset.mem_filter, Finset.mem_range]
  rfl

theorem beaters_card_lt (points : List (Option (Objectives m))) (j i : Nat)
    (beats : Beats points j i) : (beaters points j).card < (beaters points i).card := by
  apply Finset.card_lt_card
  rw [Finset.ssubset_iff_of_subset]
  · refine ⟨j, mem_beaters.mpr beats, fun isOwn => ?_⟩
    exact ConstrainedDominates.irrefl _ (mem_beaters.mp isOwn).2
  · intro other isBeater
    obtain ⟨inRange, dominates⟩ := mem_beaters.mp isBeater
    exact mem_beaters.mpr ⟨inRange, dominates.trans beats.2⟩

/-! ## Discounting -/

section

variable (dominated : List Nat) (state : (Nat → Int) × List Nat)

theorem foldl_discount_counts (j : Nat) :
    (dominated.foldl discount state).1 j = state.1 j - dominated.count j := by
  induction dominated generalizing state with
  | nil => simp
  | cons i _ ih =>
    rw [List.foldl_cons, ih, List.count_cons]
    by_cases same : j = i
    · subst same
      simp only [discount, Function.update_self, beq_self_eq_true, if_true]
      omega
    · have differs : ¬ i = j := fun equal => same equal.symm
      simp [discount, Function.update_of_ne same, differs]

/-- An index comes next when its count reaches zero. -/
theorem mem_foldl_discount (j : Nat) : j ∈ (dominated.foldl discount state).2 ↔
      j ∈ state.2 ∨ (1 ≤ state.1 j ∧ state.1 j ≤ dominated.count j) := by
  induction dominated generalizing state with
  | nil =>
    simp only [List.foldl_nil, List.count_nil, Nat.cast_zero]
    constructor
    · exact Or.inl
    · rintro (isNext | ⟨positive, zero⟩)
      · exact isNext
      · omega
  | cons i _ ih =>
    rw [List.foldl_cons, ih, List.count_cons]
    by_cases same : j = i
    · subst same
      simp only [discount, Function.update_self, beq_self_eq_true, if_true]
      by_cases last : state.1 j - 1 = 0
      · simp only [last, if_true, List.mem_append, List.mem_singleton]
        constructor
        · intro _
          right
          omega
        · intro _
          left
          right
          trivial
      · simp only [last, if_false]
        constructor
        · rintro (isNext | bounds)
          · exact .inl isNext
          · right
            omega
        · rintro (isNext | bounds)
          · exact .inl isNext
          · right
            omega
    · have differs : ¬ i = j := fun equal => same equal.symm
      have stays : j ∈ (discount state i).2 ↔ j ∈ state.2 := by
        dsimp only [discount]
        split_ifs
        · simp [same]
        · rfl
      have sameCount : (discount state i).1 j = state.1 j := by
        simp [discount, Function.update_of_ne same]
      simp [stays, sameCount, differs]

/-- No index comes next twice. -/
theorem nodup_foldl_discount (nodup : state.2.Nodup) (released : ∀ j ∈ state.2, state.1 j ≤ 0) :
    (dominated.foldl discount state).2.Nodup := by
  induction dominated generalizing state with
  | nil => exact nodup
  | cons i _ ih =>
    rw [List.foldl_cons]
    have counted (j : Nat) : (discount state i).1 j ≤ state.1 j := by
      dsimp only [discount]
      rw [Function.update_apply]
      split_ifs with same
      · rw [same]
        omega
      · exact le_rfl
    by_cases last : state.1 i - 1 = 0
    · have next : (discount state i).2 = state.2 ++ [i] := by
        simp [discount, last]
      have isNew : i ∉ state.2 := fun isOld => by
        have := released i isOld
        omega
      apply ih
      · rw [next]
        exact List.nodup_append.mpr ⟨nodup, List.nodup_singleton i, fun j isOld k isLast same =>
            isNew (List.mem_singleton.mp isLast ▸ same ▸ isOld)⟩
      · intro j isNext
        rw [next, List.mem_append, List.mem_singleton] at isNext
        rcases isNext with isOld | rfl
        · exact (counted j).trans (released j isOld)
        · simp [discount, last]
    · have next : (discount state i).2 = state.2 := by
        simp [discount, last]
      apply ih
      · rwa [next]
      · intro j isNext
        rw [next] at isNext
        exact (counted j).trans (released j isNext)

end

/-! ## One front after another -/

theorem mem_dominatedBy {points : List (Option (Objectives m))} {i j : Nat} :
    j ∈ dominatedBy points i ↔ j < points.length ∧
        ConstrainedDominates (pointAt points i) (pointAt points j) := by
  rw [dominatedBy, List.mem_filter, List.mem_range, decide_eq_true_iff]
  constructor
  · exact fun ⟨inRange, _, dominates⟩ => ⟨inRange, dominates⟩
  · rintro ⟨inRange, dominates⟩
    refine ⟨inRange, ?_, dominates⟩
    rintro rfl
    exact ConstrainedDominates.irrefl _ dominates

/-- How often an index is discounted by a front: once by each of its dominators. -/
theorem count_flatMap_dominatedBy (points : List (Option (Objectives m))) (front : List Nat)
    {j : Nat} (inRange : j < points.length) :
    (front.flatMap (dominatedBy points)).count j = front.countP fun i =>
        ConstrainedDominates (pointAt points i) (pointAt points j) := by
  induction front with
  | nil => rfl
  | cons i _ ih =>
    rw [List.flatMap_cons, List.count_append, ih, List.countP_cons, Nat.add_comm]
    have nodup : (dominatedBy points i).Nodup := List.nodup_range.filter _
    by_cases dominates : ConstrainedDominates (pointAt points i) (pointAt points j)
    · rw [List.count_eq_one_of_mem nodup (mem_dominatedBy.mpr ⟨inRange, dominates⟩),
        if_pos (decide_eq_true dominates)]
    · have isNot : j ∉ dominatedBy points i := fun isIn => dominates (mem_dominatedBy.mp isIn).2
      rw [List.count_eq_zero_of_not_mem isNot, if_neg (by simpa using dominates)]

open Classical in
/-- How many of the points that dominate an index have chains of this length: those
of this layer and of the later ones. -/
noncomputable def pending (points : List (Option (Objectives m))) (k j : Nat) : Nat :=
  (List.range points.length).countP fun i =>
    ConstrainedDominates (pointAt points i) (pointAt points j) ∧ Chain (Beats points) i k

/-- The sort before its front of number `k`: the front is the layer, and the counts
are of the dominators of this layer and of the later ones. -/
structure Stage (points : List (Option (Objectives m))) (k : Nat) (counts : Nat → Int)
    (front : List Nat) : Prop where
  mem_front : ∀ i, i ∈ front ↔ i < points.length ∧ Layer (Beats points) i k
  nodup : front.Nodup
  counts_eq : ∀ j < points.length, counts j = pending points k j

section

variable {points : List (Option (Objectives m))}

theorem pending_pos {k j : Nat} : 0 < pending points k j ↔ Chain (Beats points) j (k + 1) := by
  classical
  rw [pending, List.countP_pos_iff, chain_succ]
  constructor
  · rintro ⟨i, inRange, dominates⟩
    obtain ⟨dominates, isChain⟩ := of_decide_eq_true dominates
    exact ⟨i, ⟨List.mem_range.mp inRange, dominates⟩, isChain⟩
  · rintro ⟨i, ⟨inRange, dominates⟩, isChain⟩
    exact ⟨i, List.mem_range.mpr inRange, decide_eq_true ⟨dominates, isChain⟩⟩

/-- The dominators of a layer and of the later ones are those of the layer and those
of the later ones. -/
theorem Stage.pending_eq {k : Nat} {counts : Nat → Int} {front : List Nat}
    (stage : Stage points k counts front) (j : Nat) :
    pending points k j = pending points (k + 1) j + front.countP fun i =>
          ConstrainedDominates (pointAt points i) (pointAt points j) := by
  classical
  have frontPerm : front.Perm ((List.range points.length).filter fun i =>
        Layer (Beats points) i k) := by
    rw [List.perm_ext_iff_of_nodup stage.nodup (List.nodup_range.filter _)]
    intro i
    rw [stage.mem_front, List.mem_filter, List.mem_range, decide_eq_true_iff]
  rw [frontPerm.countP_eq, List.countP_filter, pending, pending,
    List.countP_eq_countP_filter_add _ _ fun i => Chain (Beats points) i (k + 1)]
  congr 1
  · rw [List.countP_filter]
    apply List.countP_congr
    intro i _
    simp only [Bool.and_eq_true, decide_eq_true_eq]
    constructor
    · exact fun ⟨⟨dominates, _⟩, longer⟩ => ⟨dominates, longer⟩
    · exact fun ⟨dominates, longer⟩ => ⟨⟨dominates, longer.mono (Nat.le_succ k)⟩, longer⟩
  · rw [List.countP_filter]
    apply List.countP_congr
    intro i _
    simp only [Bool.and_eq_true, decide_eq_true_eq, Bool.not_eq_true',
      decide_eq_false_iff_not, layer_iff, and_assoc]

end

/-- Before the first front. -/
theorem stage_start (points : List (Option (Objectives m))) : Stage points 0 (initialCount points)
      ((List.range points.length).filter fun i => initialCount points i = 0) := by
  classical
  have counted (j : Nat) : initialCount points j = pending points 0 j := by
    rw [initialCount, pending, Nat.cast_inj]
    apply List.countP_congr
    intro i _
    simp only [decide_eq_true_eq]
    constructor
    · exact fun ⟨_, _, dominates⟩ => ⟨dominates, chain_zero i⟩
    · rintro ⟨dominates, _⟩
      refine ⟨?_, dominates.asymm, dominates⟩
      rintro rfl
      exact ConstrainedDominates.irrefl _ dominates
  refine ⟨?_, List.nodup_range.filter _, fun j _ => counted j⟩
  intro i
  rw [List.mem_filter, List.mem_range, decide_eq_true_iff, counted, layer_iff, ← pending_pos]
  constructor
  · rintro ⟨inRange, none⟩
    exact ⟨inRange, chain_zero i, by omega⟩
  · rintro ⟨inRange, _, none⟩
    exact ⟨inRange, by omega⟩

/-- Taking a front releases the next layer. -/
theorem Stage.takeFront {points : List (Option (Objectives m))} {k : Nat} {counts : Nat → Int}
    {front : List Nat} (stage : Stage points k counts front) :
    Stage points (k + 1) (takeFront points counts front).1
      (sorted (takeFront points counts front).2) := by
  have discounted (j : Nat) (inRange : j < points.length) : counts j =
        pending points (k + 1) j + (front.flatMap (dominatedBy points)).count j := by
    rw [stage.counts_eq j inRange, stage.pending_eq,
      count_flatMap_dominatedBy points front inRange, Nat.cast_add]
  refine ⟨?_, ?_, ?_⟩
  · intro j
    rw [mem_sorted, Nsga2.takeFront, mem_foldl_discount]
    dsimp only
    constructor
    · rintro (isOld | ⟨positive, counted⟩)
      · exact absurd isOld List.not_mem_nil
      · have isDominated : j ∈ front.flatMap (dominatedBy points) := by
          rw [← List.count_pos_iff]
          omega
        obtain ⟨i, isFront, dominated⟩ := List.mem_flatMap.mp isDominated
        obtain ⟨inRange, dominates⟩ := mem_dominatedBy.mp dominated
        obtain ⟨iInRange, isLayer⟩ := (stage.mem_front i).mp isFront
        have none := discounted j inRange
        refine ⟨inRange, layer_iff.mpr ⟨.cons ⟨iInRange, dominates⟩ isLayer.1, ?_⟩⟩
        rw [← pending_pos]
        omega
    · rintro ⟨inRange, isLayer⟩
      obtain ⟨isChain, noLonger⟩ := layer_iff.mp isLayer
      rw [← pending_pos] at isChain noLonger
      have total := discounted j inRange
      rw [stage.counts_eq j inRange] at total ⊢
      right
      omega
  · rw [sorted, (List.mergeSort_perm _ _).nodup_iff]
    exact nodup_foldl_discount _ _ List.nodup_nil nofun
  · intro j inRange
    rw [Nsga2.takeFront, foldl_discount_counts]
    dsimp only
    rw [discounted j inRange]
    exact add_sub_cancel_right _ _

theorem Stage.frontsFrom {points : List (Option (Objectives m))} {counts : Nat → Int}
    {front : List Nat} {k : Nat} (stage : Stage points k counts front) :
    (∀ r other, (frontsFrom points counts front)[r]? = some other → other ≠ [] ∧ other.Nodup ∧
        ∀ i, i ∈ other ↔ i < points.length ∧ Layer (Beats points) i (k + r)) ∧
    ∀ r, ∀ i < points.length, Layer (Beats points) i (k + r) →
      r < (frontsFrom points counts front).length := by
  induction counts, front using frontsFrom.induct points generalizing k with
  | case1 =>
    rw [Nsga2.frontsFrom, if_pos rfl]
    refine ⟨fun r other isOther => absurd isOther (by simp), ?_⟩
    intro r i inRange isLayer
    obtain ⟨other, ofOther, isHigh⟩ :=
      isLayer.exists_of_le (beaters_card_lt points) (Nat.le_add_right k r)
    have otherInRange : other < points.length := by
      rcases isHigh with rfl | ⟨_, isBeating⟩
      · exact inRange
      · exact isBeating.1
    exact absurd ((stage.mem_front other).mpr ⟨otherInRange, ofOther⟩) List.not_mem_nil
  | case2 _ front notEmpty ih =>
    obtain ⟨later, counted⟩ := ih stage.takeFront
    rw [Nsga2.frontsFrom, if_neg notEmpty]
    constructor
    · intro r other isOther
      cases r with
      | zero =>
        obtain rfl : front = other := by simpa using isOther
        exact ⟨notEmpty, stage.nodup, stage.mem_front⟩
      | succ r =>
        rw [List.getElem?_cons_succ] at isOther
        have found := later r other isOther
        rwa [Nat.add_right_comm, Nat.add_assoc k r 1] at found
    · intro r i inRange isLayer
      cases r with
      | zero => exact Nat.succ_pos _
      | succ r =>
        rw [← Nat.add_assoc, Nat.add_right_comm] at isLayer
        exact Nat.succ_lt_succ (counted r i inRange isLayer)

/-! ## All fronts -/

section

variable {points : List (Option (Objectives m))} {k : Nat} {front : List Nat}

theorem front_spec (isFront : (nonDominatedSort points)[k]? = some front) :
    front ≠ [] ∧ front.Nodup ∧ ∀ i, i ∈ front ↔ i < points.length ∧ Layer (Beats points) i k := by
  have found := (stage_start points).frontsFrom.1 k front isFront
  rwa [Nat.zero_add] at found

theorem exists_front {i : Nat} (inRange : i < points.length) (isLayer : Layer (Beats points) i k) :
    ∃ front, (nonDominatedSort points)[k]? = some front ∧ i ∈ front := by
  have counted := (stage_start points).frontsFrom.2 k i inRange ((Nat.zero_add k).symm ▸ isLayer)
  have isFront := List.getElem?_eq_getElem counted
  exact ⟨_, isFront, ((front_spec isFront).2.2 i).mpr ⟨inRange, isLayer⟩⟩

theorem mem_flatten_nonDominatedSort {i : Nat} :
    i ∈ (nonDominatedSort points).flatten ↔ i < points.length := by
  rw [List.mem_flatten]
  constructor
  · rintro ⟨front, isFront, isIn⟩
    exact nonDominatedSort_lt isFront i isIn
  · intro inRange
    obtain ⟨layer, isLayer⟩ := exists_layer (beaters_card_lt points) i
    obtain ⟨front, isFront, isIn⟩ := exists_front inRange isLayer
    exact ⟨front, List.mem_of_getElem? isFront, isIn⟩

section

variable (points : List (Option (Objectives m)))

/-- The fronts share no index. -/
theorem nodup_flatten_nonDominatedSort : (nonDominatedSort points).flatten.Nodup := by
  rw [List.nodup_flatten]
  constructor
  · intro front isFront
    obtain ⟨k, isFront⟩ := List.mem_iff_getElem?.mp isFront
    exact (front_spec isFront).2.1
  · rw [List.pairwise_iff_getElem]
    intro first second firstInRange secondInRange before i isFirst isSecond
    have ofFirst := (front_spec (List.getElem?_eq_getElem firstInRange)).2.2 i |>.mp isFirst
    have ofSecond := (front_spec (List.getElem?_eq_getElem secondInRange)).2.2 i |>.mp isSecond
    exact absurd (ofFirst.2.unique ofSecond.2) (Nat.ne_of_lt before)

/-- The fronts partition the indexes. -/
theorem flatten_nonDominatedSort_perm :
    (nonDominatedSort points).flatten.Perm (List.range points.length) := by
  rw [List.perm_ext_iff_of_nodup (nodup_flatten_nonDominatedSort points) List.nodup_range]
  intro i
  rw [mem_flatten_nonDominatedSort, List.mem_range]

end

theorem lt_length_of_isSome {i : Nat} (isSome : (pointAt points i).isSome = true) :
    i < points.length := by
  by_contra outside
  rw [pointAt, List.getD_eq_getElem?_getD, List.getElem?_eq_none (not_lt.mp outside)] at isSome
  cases isSome

theorem layer_of_infeasible {i j layer other : Nat} (infeasible : pointAt points i = none)
    (ofI : Layer (Beats points) i layer) (ofJ : Layer (Beats points) j other) :
    other ≤ layer ∧ (other = layer ↔ pointAt points j = none) := by
  cases isPoint : pointAt points j with
  | none =>
    have same : Layer (Beats points) j layer := by
      rw [← layer_congr fun higher => ?_]
      · exact ofI
      · rw [Beats, Beats, infeasible, isPoint]
    have equal := ofJ.unique same
    exact ⟨equal.le, iff_of_true equal rfl⟩
  | some =>
    have inRange := lt_length_of_isSome (Option.isSome_of_eq_some isPoint)
    have beats : Beats points j i := by
      rw [Beats, isPoint, infeasible]
      exact ⟨inRange, trivial⟩
    have before := ofJ.lt_of_above ofI beats
    exact ⟨before.le, iff_of_false before.ne (by simp)⟩

end

/-- The sort partitions the indexes into fronts that are not empty: a point is in
front `k` exactly when the longest chain of points that dominate it has length `k`,
and when some point is infeasible, the last front has exactly the infeasible ones. -/
theorem nonDominatedSort_layers (points : List (Option (Objectives m))) :
    (nonDominatedSort points).flatten.Perm (List.range points.length) ∧
    [] ∉ nonDominatedSort points ∧ (∀ k, ∀ i < points.length,
      (∃ front, (nonDominatedSort points)[k]? = some front ∧ i ∈ front) ↔
        Layer (Beats points) i k) ∧ ((∃ i < points.length, pointAt points i = none) →
      ∃ last, (nonDominatedSort points).getLast? = some last ∧
        ∀ i, i ∈ last ↔ i < points.length ∧ pointAt points i = none) := by
  refine ⟨flatten_nonDominatedSort_perm points, ?_, ?_, ?_⟩
  · intro isEmpty
    obtain ⟨k, isFront⟩ := List.mem_iff_getElem?.mp isEmpty
    exact (front_spec isFront).1 rfl
  · intro k i inRange
    constructor
    · rintro ⟨front, isFront, isIn⟩
      exact (((front_spec isFront).2.2 i).mp isIn).2
    · exact exists_front inRange
  · rintro ⟨i, inRange, infeasible⟩
    obtain ⟨layer, ofI⟩ := exists_layer (beaters_card_lt points) i
    obtain ⟨front, isFront, _⟩ := exists_front inRange ofI
    have counted : layer < (nonDominatedSort points).length :=
      List.getElem?_eq_some_iff.mp isFront |>.1
    have isLast : (nonDominatedSort points).length = layer + 1 := by
      apply le_antisymm _ counted
      by_contra longer
      have isLater := List.getElem?_eq_getElem (not_le.mp longer)
      obtain ⟨notEmpty, _, members⟩ := front_spec isLater
      obtain ⟨j, isIn⟩ := List.exists_mem_of_ne_nil _ notEmpty
      have ofJ := ((members j).mp isIn).2
      exact absurd (layer_of_infeasible infeasible ofI ofJ).1 (Nat.not_succ_le_self layer)
    refine ⟨front, ?_, ?_⟩
    · rw [List.getLast?_eq_getElem?, isLast]
      exact isFront
    · intro j
      rw [(front_spec isFront).2.2]
      apply and_congr_right
      intro _
      obtain ⟨other, ofJ⟩ := exists_layer (beaters_card_lt points) j
      rw [← (layer_of_infeasible infeasible ofI ofJ).2]
      exact ⟨ofJ.unique, fun same => same ▸ ofJ⟩

/-! ## Survivors -/

theorem feasible_append_perm (points : List (Option (Objectives m))) (front : List Nat) :
    (feasible points front ++ front.filter fun i => ¬ (pointAt points i).isSome).Perm front := by
  have split := List.filter_append_perm (fun i => (pointAt points i).isSome) front
  simp only [Bool.not_eq_true, Bool.decide_eq_false]
  exact split

/-- What the loop takes: one group a front, whole unless it is the last one. -/
structure Taken (fronts groups : List (List Nat)) : Prop where
  subperm : ∀ a, (groups.getD a []).Subperm (fronts.getD a [])
  whole : ∀ a b, a < b → groups.getD b [] ≠ [] → (groups.getD a []).Perm (fronts.getD a [])

theorem Taken.cons {fronts groups : List (List Nat)} {front group : List Nat}
    (isWhole : group.Perm front) (taken : Taken fronts groups) :
    Taken (front :: fronts) (group :: groups) := by
  constructor
  · rintro (_ | a)
    · exact isWhole.subperm
    · exact taken.subperm a
  · rintro a (_ | b) before isSome
    · exact absurd before (Nat.not_lt_zero a)
    · cases a with
      | zero => exact isWhole
      | succ a => exact taken.whole a b (Nat.lt_of_succ_lt_succ before) isSome

theorem Taken.last {front group : List Nat} (isPart : group.Subperm front)
    (fronts : List (List Nat)) : Taken (front :: fronts) [group] := by
  constructor
  · rintro (_ | a)
    · exact isPart
    · exact List.nil_subperm
  · rintro a (_ | b) before isSome
    · exact absurd before (Nat.not_lt_zero a)
    · exact absurd rfl isSome

theorem selectFrom_spec (points : List (Option (Objectives m))) {size : Nat}
    (fronts : List (List Nat)) (chosen : List Nat) (fits : chosen.length ≤ size) :
    ∃ groups, Taken fronts groups ∧
        selectFrom points size fronts chosen = chosen ++ groups.flatten ∧
        (selectFrom points size fronts chosen).length =
          min size (chosen.length + fronts.flatten.length) := by
  induction fronts generalizing chosen with
  | nil =>
    refine ⟨[], ⟨fun a => List.nil_subperm, fun a b _ isSome => ?_⟩, ?_, ?_⟩
    · exact absurd rfl isSome
    · rw [selectFrom, List.flatten_nil, List.append_nil]
    · rw [selectFrom, List.flatten_nil, List.length_nil, Nat.add_zero, Nat.min_eq_right fits]
  | cons front fronts ih =>
    have split := feasible_append_perm points front
    unfold selectFrom
    split_ifs with isWhole
    · obtain ⟨groups, taken, result, counted⟩ := ih (chosen ++ (feasible points front ++
          front.filter fun i => ¬ (pointAt points i).isSome)) (by
            rwa [List.length_append, split.length_eq])
      refine ⟨_, taken.cons split, ?_, ?_⟩
      · rw [result, List.flatten_cons, List.append_assoc]
      · rw [counted, List.length_append, split.length_eq, List.flatten_cons,
          List.length_append, Nat.add_assoc]
    · -- The front that no longer fits is ordered and cut.
      have reordered := ((List.mergeSort_perm (feasible points front) fun i j =>
        crowdingDistance points (feasible points front) j <
            crowdingDistance points (feasible points front) i ∨
          (crowdingDistance points (feasible points front) i =
            crowdingDistance points (feasible points front) j ∧ i ≤ j)).append_right _).trans split
      have isPart := (List.take_sublist (size - chosen.length) _).subperm.trans reordered.subperm
      refine ⟨_, Taken.last isPart fronts, by simp, ?_⟩
      rw [List.length_append, List.length_take, reordered.length_eq,
        List.flatten_cons, List.length_append]
      omega

theorem mem_getD_nonDominatedSort {points : List (Option (Objectives m))} {a i : Nat} :
    i ∈ (nonDominatedSort points).getD a [] ↔ i < points.length ∧ Layer (Beats points) i a := by
  rw [List.getD_eq_getElem?_getD]
  cases isFront : (nonDominatedSort points)[a]? with
  | some => exact (front_spec isFront).2.2 i
  | none =>
    refine iff_of_false List.not_mem_nil fun ⟨inRange, isLayer⟩ => ?_
    obtain ⟨front, isSome, _⟩ := exists_front inRange isLayer
    rw [isFront] at isSome
    cases isSome

theorem exists_mem_getD {groups : List (List Nat)} {i : Nat} (isIn : i ∈ groups.flatten) :
    ∃ a, i ∈ groups.getD a [] := by
  obtain ⟨group, isGroup, isIn⟩ := List.mem_flatten.mp isIn
  obtain ⟨a, isGroup⟩ := List.mem_iff_getElem?.mp isGroup
  refine ⟨a, ?_⟩
  rwa [List.getD_eq_getElem?_getD, isGroup]

section

variable {points : List (Option (Objectives m))} {groups : List (List Nat)}
  (taken : Taken (nonDominatedSort points) groups)

include taken

theorem Taken.layer {a i : Nat} (isIn : i ∈ groups.getD a []) :
    i < points.length ∧ Layer (Beats points) i a :=
  mem_getD_nonDominatedSort.mp ((taken.subperm a).subset isIn)

theorem Taken.mem_of_lt {i j earlier later : Nat} (isIn : j ∈ groups.flatten)
    (ofJ : Layer (Beats points) j later) (before : earlier < later) (inRange : i < points.length)
    (ofI : Layer (Beats points) i earlier) : i ∈ groups.flatten := by
  obtain ⟨a, inGroup⟩ := exists_mem_getD isIn
  obtain rfl := (taken.layer inGroup).2.unique ofJ
  have isWhole := taken.whole earlier a before (List.ne_nil_of_mem inGroup)
  have isTaken := isWhole.mem_iff.mpr (mem_getD_nonDominatedSort.mpr ⟨inRange, ofI⟩)
  rw [List.getD_eq_getElem?_getD] at isTaken
  cases isGroup : groups[earlier]? with
  | none =>
    rw [isGroup] at isTaken
    exact absurd isTaken List.not_mem_nil
  | some group =>
    rw [isGroup] at isTaken
    exact List.mem_flatten.mpr ⟨group, List.mem_of_getElem? isGroup, isTaken⟩

theorem Taken.pairwise : groups.flatten.Pairwise fun i j =>
      i ≠ j ∧ ∀ earlier later, Layer (Beats points) i earlier → Layer (Beats points) j later →
          earlier ≤ later := by
  rw [List.pairwise_flatten]
  have atIndex {a : Nat} (isGroup : a < groups.length) : groups.getD a [] = groups[a] := by
    rw [List.getD_eq_getElem?_getD, List.getElem?_eq_getElem isGroup, Option.getD_some]
  constructor
  · intro group isGroup
    obtain ⟨a, isIndex, rfl⟩ := List.mem_iff_getElem.mp isGroup
    rw [← atIndex isIndex]
    have nodup : (groups.getD a []).Nodup := by
      obtain ⟨part, isPerm, isSublist⟩ := taken.subperm a
      refine isPerm.nodup_iff.mp (isSublist.nodup ?_)
      rw [List.getD_eq_getElem?_getD]
      cases isFront : (nonDominatedSort points)[a]? with
      | none => exact List.nodup_nil
      | some => exact (front_spec isFront).2.1
    refine nodup.imp_of_mem fun isFirst isSecond differs => ⟨differs, ?_⟩
    intro earlier later ofFirst ofSecond
    rw [ofFirst.unique (taken.layer isFirst).2, ofSecond.unique (taken.layer isSecond).2]
  · rw [List.pairwise_iff_getElem]
    intro a b aInRange bInRange before i isFirst j isSecond
    rw [← atIndex aInRange] at isFirst
    rw [← atIndex bInRange] at isSecond
    have ofFirst := (taken.layer isFirst).2
    have ofSecond := (taken.layer isSecond).2
    constructor
    · rintro rfl
      exact before.ne (ofFirst.unique ofSecond)
    · intro earlier later isEarlier isLater
      rw [isEarlier.unique ofFirst, isLater.unique ofSecond]
      exact before.le

end

theorem length_selectSurvivors (points : List (Option (Objectives m))) (size : Nat) :
    (selectSurvivors points size).length = min size points.length := by
  obtain ⟨groups, _, _, counted⟩ :=
    selectFrom_spec points (nonDominatedSort points) [] (Nat.zero_le size)
  rw [selectSurvivors, counted, (flatten_nonDominatedSort_perm points).length_eq,
    List.length_nil, Nat.zero_add, List.length_range]

/-- The sort returns the layers of the points, the infeasible points in the last
front, and the survivors are distinct, undominated from outside, and taken front by
front. -/
theorem sort_and_survivors (points : List (Option (Objectives m))) (size : Nat) :
    ((nonDominatedSort points).flatten.Perm (List.range points.length) ∧
      [] ∉ nonDominatedSort points ∧
      (∀ k, ∀ i < points.length, (∃ front, (nonDominatedSort points)[k]? = some front ∧ i ∈ front) ↔
          Layer (Beats points) i k) ∧ ((∃ i < points.length, pointAt points i = none) →
        ∃ last, (nonDominatedSort points).getLast? = some last ∧
          ∀ i, i ∈ last ↔ i < points.length ∧ pointAt points i = none)) ∧
    (selectSurvivors points size).length = min size points.length ∧
    (selectSurvivors points size).Nodup ∧ (∀ i ∈ selectSurvivors points size, i < points.length) ∧
    (∀ i ∈ selectSurvivors points size, ∀ j < points.length, j ∉ selectSurvivors points size →
        ¬ ConstrainedDominates (pointAt points j) (pointAt points i)) ∧
    (∀ (k later : Nat) (front laterFront : List Nat), k < later →
      (nonDominatedSort points)[k]? = some front →
      (nonDominatedSort points)[later]? = some laterFront →
      (∃ j ∈ laterFront, j ∈ selectSurvivors points size) →
        ∀ i ∈ front, i ∈ selectSurvivors points size) ∧
    (selectSurvivors points size).Pairwise fun i j =>
      ∀ k later, Layer (Beats points) i k → Layer (Beats points) j later → k ≤ later := by
  refine ⟨nonDominatedSort_layers points, length_selectSurvivors points size, ?_⟩
  obtain ⟨groups, taken, result, _⟩ :=
    selectFrom_spec points (nonDominatedSort points) [] (Nat.zero_le size)
  rw [List.nil_append] at result
  refine ⟨?_, selectSurvivors_lt, ?_, ?_, ?_⟩ <;> rw [selectSurvivors, result]
  · exact taken.pairwise.imp fun ⟨differs, _⟩ => differs
  · intro i isChosen j inRange notChosen dominates
    obtain ⟨a, inGroup⟩ := exists_mem_getD isChosen
    have ofI := (taken.layer inGroup).2
    obtain ⟨layer, ofJ⟩ := exists_layer (beaters_card_lt points) j
    have before := ofJ.lt_of_above ofI ⟨inRange, dominates⟩
    exact notChosen (taken.mem_of_lt isChosen ofI before inRange ofJ)
  · rintro k later front laterFront before isFront isLater ⟨j, ofLater, isChosen⟩ i ofFront
    have ofJ := ((front_spec isLater).2.2 j).mp ofLater
    have ofI := ((front_spec isFront).2.2 i).mp ofFront
    exact taken.mem_of_lt isChosen ofJ.2 before ofI.1 ofI.2
  · exact taken.pairwise.imp fun ⟨_, ordered⟩ => ordered

end UrbanFlow.Nsga2
