import Mathlib.Data.Fin.VecNotation
import Mathlib.Data.ZMod.Defs

/-!
# Searching a cyclic order

Positions of a cyclic list of `n` entries are `Fin n`, and the successor is
`i + 1`, which wraps. `walk i` lists the positions from `i` once around,
`firstFrom` is the first of them with a property and `gap` is how many steps
away it is. The gap is the measure by which a cyclic walk towards a property
terminates.
-/

namespace CyclicOrder

variable {n : Nat} [NeZero n]

section

variable (i : Fin n)

/-- The position `k` steps after `i`. -/
def ahead (k : Nat) : Fin n := i + Fin.ofNat n k

@[simp] theorem ahead_zero : ahead i 0 = i := by
  apply Fin.ext
  simp [ahead]

theorem ahead_val (k : Nat) : (ahead i k).val = (i.val + k) % n := by simp [ahead, Fin.val_add]

theorem ahead_ahead (j k : Nat) : ahead (ahead i j) k = ahead i (j + k) := by
  apply Fin.ext
  simp [ahead_val, Nat.add_assoc]

theorem ahead_one : ahead i 1 = i + 1 := by
  apply Fin.ext
  simp [ahead, Fin.val_add]

theorem ahead_succ (k : Nat) : ahead i (k + 1) = ahead (i + 1) k := by
  rw [← ahead_one, ahead_ahead, Nat.add_comm]

/-- Going once around returns to the start. -/
@[simp] theorem ahead_card : ahead i n = i := by
  apply Fin.ext
  simp [ahead_val, Nat.mod_eq_of_lt i.isLt]

theorem iterate_succ_eq_ahead (k : Nat) : (· + 1)^[k] i = ahead i k := by
  induction k generalizing i with
  | zero => simp
  | succ _ ih => rw [Function.iterate_succ_apply, ih, ahead_succ]

end

section

variable (i j : Fin n)

/-- Number of forward steps from `i` to `j`. -/
def distance : Nat := (j.val + n - i.val) % n

theorem distance_lt : distance i j < n := Nat.mod_lt _ (Nat.pos_of_neZero n)

theorem ahead_distance : ahead i (distance i j) = j := by
  apply Fin.ext
  have first := i.isLt
  have second := j.isLt
  rw [ahead_val, distance, Nat.add_mod_mod]
  rw [show i.val + (j.val + n - i.val) = j.val + n by omega]
  simp [Nat.mod_eq_of_lt second]

end

theorem distance_ahead (i : Fin n) {k : Nat} (small : k < n) : distance i (ahead i k) = k := by
  have first := i.isLt
  rw [distance, ahead_val]
  by_cases wraps : i.val + k < n
  · rw [Nat.mod_eq_of_lt wraps, show i.val + k + n - i.val = k + n by omega]
    simp [Nat.mod_eq_of_lt small]
  · have reduced : (i.val + k) % n = i.val + k - n := by
      rw [Nat.mod_eq_sub_mod (by omega), Nat.mod_eq_of_lt (by omega)]
    rw [reduced, show i.val + k - n + n - i.val = k by omega, Nat.mod_eq_of_lt small]

@[simp] theorem distance_self (i : Fin n) : distance i i = 0 := by
  have reached := distance_ahead i (Nat.pos_of_neZero n)
  simpa using reached

theorem distance_eq_zero_iff (i j : Fin n) : distance i j = 0 ↔ i = j := by
  constructor
  · intro zero
    have reached := ahead_distance i j
    rw [zero, ahead_zero] at reached
    exact reached
  · rintro rfl
    exact distance_self i

/-- The positions from `i` once around the cycle. -/
def walk (i : Fin n) : List (Fin n) := (List.range n).map (ahead i)

theorem mem_walk (i j : Fin n) : j ∈ walk i := by
  refine List.mem_map.mpr ⟨distance i j, ?_, ahead_distance i j⟩
  exact List.mem_range.mpr (distance_lt i j)

@[simp] theorem length_walk (i : Fin n) : (walk i).length = n := by simp [walk]

theorem walk_get (i : Fin n) (k : Nat) (small : k < (walk i).length) : (walk i)[k] = ahead i k := by
  simp [walk]

/-- The first position from `i` on, cyclically, that has the property. -/
def firstFrom (p : Fin n → Bool) (i : Fin n) : Option (Fin n) := (walk i).find? p

section

variable {p : Fin n → Bool}

theorem firstFrom_some {i j : Fin n} (found : firstFrom p i = some j) : p j = true :=
  List.find?_some found

theorem firstFrom_eq_none {i : Fin n} : firstFrom p i = none ↔ ∀ j, p j = false := by
  unfold firstFrom
  rw [List.find?_eq_none]
  constructor
  · intro absent j
    simpa using absent j (mem_walk i j)
  · intro absent j _
    simp [absent j]

theorem firstFrom_isSome (i : Fin n) {j : Fin n} (holds : p j = true) :
    ∃ found, firstFrom p i = some found := by
  cases result : firstFrom p i with
  | none =>
    rw [firstFrom_eq_none] at result
    simp [result j] at holds
  | some found => exact ⟨found, rfl⟩

/-- Nothing between the start and the found position has the property. -/
theorem firstFrom_minimal {i j : Fin n} (found : firstFrom p i = some j) {k : Nat}
    (before : k < distance i j) : p (ahead i k) = false := by
  unfold firstFrom at found
  rw [List.find?_eq_some_iff_getElem] at found
  obtain ⟨_, m, small, equal, absent⟩ := found
  rw [length_walk] at small
  rw [walk_get] at equal
  have position : distance i j = m := by
    rw [← equal]
    exact distance_ahead i small
  have earlier := absent k (by omega)
  rw [walk_get] at earlier
  simpa using earlier

theorem firstFrom_nearest {i found j : Fin n} (result : firstFrom p i = some found)
    (holds : p j = true) : distance i found ≤ distance i j := by
  by_contra nearer
  have absent := firstFrom_minimal result (not_le.mp nearer)
  rw [ahead_distance, holds] at absent
  exact Bool.noConfusion absent

theorem walk_eq_cons (i : Fin n) : walk i = i :: (walk i).tail := by
  obtain ⟨m, isSucc⟩ := Nat.exists_eq_succ_of_ne_zero (NeZero.ne n)
  have range : List.range n = 0 :: (List.range m).map Nat.succ := by
    rw [isSucc, List.range_succ_eq_map]
  unfold walk
  rw [range, List.map_cons, ahead_zero, List.tail_cons]

/-- Past a start without the property, the search goes on through the rest of
the cycle. -/
theorem firstFrom_eq_find?_tail {i : Fin n} (absent : p i = false) :
    firstFrom p i = (walk i).tail.find? p := by
  rw [firstFrom, walk_eq_cons, List.find?_cons_of_neg (by simp [absent]), List.tail_cons]

/-- Starting at a position with the property, the search stops there. -/
theorem firstFrom_self {i : Fin n} (holds : p i = true) : firstFrom p i = some i := by
  obtain ⟨found, result⟩ := firstFrom_isSome i holds
  have minimal := firstFrom_minimal result (k := 0)
  rw [ahead_zero, holds] at minimal
  have zero : distance i found = 0 := by
    by_contra positive
    simpa using minimal (by omega)
  rw [result, (distance_eq_zero_iff i found).mp zero]

/-- A start without the property can be dropped from the search, as long as
the property holds somewhere. -/
theorem firstFrom_succ {i : Fin n} (absent : p i = false) :
    firstFrom p (i + 1) = firstFrom p i := by
  cases result : firstFrom p i with
  | none => exact firstFrom_eq_none.mpr (firstFrom_eq_none.mp result)
  | some found =>
    have holds := firstFrom_some result
    have apart : distance i found ≠ 0 := by
      intro zero
      rw [(distance_eq_zero_iff i found).mp zero, holds] at absent
      exact Bool.noConfusion absent
    obtain ⟨other, other_found⟩ := firstFrom_isSome (i + 1) holds
    rw [other_found]
    have otherHolds := firstFrom_some other_found
    have reach : ahead (i + 1) (distance i found - 1) = found := by
      rw [← ahead_succ, show distance i found - 1 + 1 = distance i found by omega, ahead_distance]
    -- Neither search can stop before the other one does.
    have notAfter : distance (i + 1) other ≤ distance i found - 1 := by
      by_contra later
      have skipped := firstFrom_minimal other_found (k := distance i found - 1) (by omega)
      rw [reach, holds] at skipped
      exact Bool.noConfusion skipped
    have notBefore : distance i found ≤ distance (i + 1) other + 1 := by
      by_contra earlier
      have skipped := firstFrom_minimal result (k := distance (i + 1) other + 1) (by omega)
      rw [ahead_succ, ahead_distance, otherHolds] at skipped
      exact Bool.noConfusion skipped
    have same : distance (i + 1) other = distance i found - 1 := by omega
    rw [← reach, ← same, ahead_distance]

end

/-- Steps from `i` to the first position with the property; `n` when there is
none. -/
def gap (p : Fin n → Bool) (i : Fin n) : Nat := match firstFrom p i with
  | none => n
  | some j => distance i j

section

variable {p : Fin n → Bool}

theorem gap_lt (i : Fin n) {j : Fin n} (holds : p j = true) : gap p i < n := by
  obtain ⟨found, result⟩ := firstFrom_isSome i holds
  rw [gap, result]
  exact distance_lt i found

theorem gap_minimal {i : Fin n} {k : Nat} (before : k < gap p i) : p (ahead i k) = false := by
  unfold gap at before
  split at before
  · next absent => exact firstFrom_eq_none.mp absent _
  · next result => exact firstFrom_minimal result before

theorem gap_eq_zero {i : Fin n} (holds : p i = true) : gap p i = 0 := by
  rw [gap, firstFrom_self holds]
  exact distance_self i

/-- Each step of a walk that has not arrived brings the property one closer. -/
theorem gap_succ {i j : Fin n} (absent : p i = false) (holds : p j = true) :
    gap p (i + 1) + 1 = gap p i := by
  obtain ⟨found, result⟩ := firstFrom_isSome i holds
  have foundHolds := firstFrom_some result
  have apart : distance i found ≠ 0 := by
    intro zero
    rw [(distance_eq_zero_iff i found).mp zero, foundHolds] at absent
    exact Bool.noConfusion absent
  have small := distance_lt i found
  have shifted : distance (i + 1) found = distance i found - 1 := by
    have reach : ahead (i + 1) (distance i found - 1) = found := by
      rw [← ahead_succ, show distance i found - 1 + 1 = distance i found by omega, ahead_distance]
    calc
      distance (i + 1) found = distance (i + 1) (ahead (i + 1) (distance i found - 1)) := by
        rw [reach]
      _ = distance i found - 1 := distance_ahead (i + 1) (by omega)
  rw [gap, gap, firstFrom_succ absent, result]
  simp only [shifted]
  omega

end

theorem nodup_walk (i : Fin n) : (walk i).Nodup := by
  refine List.Nodup.map_on ?_ List.nodup_range
  intro k small m within same
  rw [List.mem_range] at small within
  have distances := congrArg (distance i) same
  rwa [distance_ahead i small, distance_ahead i within] at distances

theorem countP_walk (p : Fin n → Bool) (i : Fin n) :
    (walk i).countP p = ((List.finRange n).filter p).length := by
  rw [← List.countP_eq_length_filter]
  apply List.Perm.countP_eq
  rw [List.perm_ext_iff_of_nodup (nodup_walk i) (List.nodup_finRange n)]
  intro j
  exact ⟨fun _ => List.mem_finRange j, fun _ => mem_walk i j⟩

/-- The positions after `i` and before `j`. -/
def strictlyBetween (i j : Fin n) : List (Fin n) :=
  (List.range (distance i j - 1)).map fun k => ahead i (k + 1)

/-- How many positions after `i` and before `j` have the property. -/
def between (p : Fin n → Bool) (i j : Fin n) : Nat := (strictlyBetween i j).countP p

/-- A position on the way splits what lies between. -/
theorem strictlyBetween_split {i middle j : Fin n} (after : 0 < distance i middle)
    (before : distance i middle < distance i j) :
    strictlyBetween i j = strictlyBetween i middle ++ middle :: strictlyBetween middle j := by
  have rest : distance middle j = distance i j - distance i middle := by
    have onward : ∀ k, ahead middle k = ahead i (distance i middle + k) := by
      intro k
      rw [← ahead_ahead, ahead_distance]
    have reach : ahead middle (distance i j - distance i middle) = j := by
      rw [onward, show distance i middle +
        (distance i j - distance i middle) = distance i j by omega,
        ahead_distance]
    have small := distance_lt i j
    calc
      distance middle j = distance middle (ahead middle (distance i j - distance i middle)) := by
        rw [reach]
      _ = distance i j - distance i middle := distance_ahead middle (by omega)
  unfold strictlyBetween
  rw [show distance i j - 1 = (distance i middle - 1) + (1 + (distance middle j - 1)) by omega,
    List.range_add, List.range_add, List.map_append, List.map_append,
    List.map_append]
  congr 1
  simp only [List.range_one, List.map_cons, List.map_nil, List.map_map,
    List.singleton_append, Nat.add_zero]
  congr 1
  · rw [show distance i middle - 1 + 1 = distance i middle by omega, ahead_distance]
  · apply List.map_congr_left
    intro k _
    simp only [Function.comp_apply]
    rw [show distance i middle - 1 + (1 + k) + 1 =
      distance i middle + (k + 1) by omega, ← ahead_ahead, ahead_distance]

/-- Moving on to a position with the property leaves one less between. -/
theorem between_lt {p : Fin n → Bool} {i middle j : Fin n} (holds : p middle = true)
    (after : 0 < distance i middle) (before : distance i middle < distance i j) :
    between p middle j < between p i j := by
  unfold between
  rw [strictlyBetween_split after before, List.countP_append, List.countP_cons_of_pos holds]
  omega

/-- Between two positions with the property lie all but two of them at most. -/
theorem between_add_two_le {p : Fin n → Bool} {i j : Fin n} (different : i ≠ j)
    (first : p i = true) (last : p j = true) :
    between p i j + 2 ≤ ((List.finRange n).filter p).length := by
  have apart : distance i j ≠ 0 := fun zero => different ((distance_eq_zero_iff i j).mp zero)
  have small := distance_lt i j
  have ends : (List.range (distance i j + 1)).map (ahead i) =
      i :: (strictlyBetween i j ++ [j]) := by
    rw [List.range_succ, List.map_append, List.map_cons, List.map_nil, ahead_distance,
      show distance i j = (distance i j - 1) + 1 by omega,
      List.range_succ_eq_map, List.map_cons, List.map_map, ahead_zero,
      List.cons_append]
    rfl
  have prefixOf : ((List.range (distance i j + 1)).map (ahead i)).Sublist (walk i) := by
    unfold walk
    exact (List.range_sublist.mpr (by omega)).map _
  have counted := prefixOf.countP_le (p := p)
  rw [ends, List.countP_cons_of_pos first, List.countP_append,
    List.countP_cons_of_pos last, List.countP_nil, countP_walk] at counted
  unfold between
  omega

/-- The positions from `i` up to, not including, the next visit of `stop`, at
most `fuel` of them. -/
def arcLoop (stop : Fin n) : Nat → Fin n → List (Fin n)
  | 0, _ => []
  | fuel + 1, i => i :: if i + 1 = stop then [] else arcLoop stop fuel (i + 1)

/-- The positions from `start` on before the next `stop`: the whole cycle when
they are the same. -/
def arc (start stop : Fin n) : List (Fin n) := arcLoop stop n start

section

variable {stop : Fin n} {fuel : Nat}

theorem mem_arcLoop {i j : Fin n} : j ∈ arcLoop stop fuel i ↔ ∃ k, k < fuel ∧ j = ahead i k ∧
        ∀ m, 0 < m → m ≤ k → ahead i m ≠ stop := by
  induction fuel generalizing i with
  | zero => simp [arcLoop]
  | succ fuel ih =>
    rw [arcLoop, List.mem_cons]
    constructor
    · rintro (rfl | later)
      · refine ⟨0, Nat.succ_pos fuel, (ahead_zero j).symm, ?_⟩
        intro m positive none
        omega
      · split at later
        · exact absurd later (List.not_mem_nil)
        · next goesOn =>
            obtain ⟨k, small, reached, avoids⟩ := ih.mp later
            refine ⟨k + 1, by omega, ?_, fun m positive within => ?_⟩
            · rw [reached, ahead_succ]
            · obtain ⟨m, rfl⟩ := Nat.exists_eq_succ_of_ne_zero (Nat.pos_iff_ne_zero.mp positive)
              rw [Nat.succ_eq_add_one, ahead_succ]
              rcases Nat.eq_zero_or_pos m with rfl | later
              · rw [ahead_zero]
                exact goesOn
              · exact avoids m later (by omega)
    · rintro ⟨k, small, reached, avoids⟩
      cases k with
      | zero =>
        left
        rw [reached, ahead_zero]
      | succ k =>
        right
        have goesOn : i + 1 ≠ stop := by
          rw [← ahead_one]
          exact avoids 1 (by omega) (by omega)
        rw [if_neg goesOn]
        refine ih.mpr ⟨k, by omega, ?_, ?_⟩
        · rw [reached, ahead_succ]
        · intro m positive within
          rw [← ahead_succ]
          exact avoids (m + 1) (by omega) (by omega)

theorem nodup_arcLoop (within : fuel ≤ n) (i : Fin n) : (arcLoop stop fuel i).Nodup := by
  induction fuel generalizing i with
  | zero => exact List.nodup_nil
  | succ _ ih =>
    rw [arcLoop, List.nodup_cons]
    refine ⟨fun again => ?_, ?_⟩
    · split at again
      · exact absurd again List.not_mem_nil
      · obtain ⟨_, _, reached, _⟩ := mem_arcLoop.mp again
        have back := congrArg (distance i) reached
        rw [← ahead_succ, distance_self, distance_ahead i (by omega)] at back
        omega
    · split
      · exact List.nodup_nil
      · exact ih (by omega) (i + 1)

end

/-- An arc visits no position twice. -/
theorem nodup_arc (start stop : Fin n) : (arc start stop).Nodup := nodup_arcLoop (le_refl n) start

/-- An arc is an interval, or, when it wraps, the rest of the cycle. -/
theorem mem_arc {start stop j : Fin n} :
    j ∈ arc start stop ↔ (start ≤ j ∧ j < stop) ∨ stop ≤ start ∧ (start ≤ j ∨ j < stop) := by
  unfold arc
  rw [mem_arcLoop]
  have startLt := start.isLt
  have stopLt := stop.isLt
  have jLt := j.isLt
  simp only [Fin.le_def, Fin.lt_def]
  constructor
  · rintro ⟨k, small, reached, avoids⟩
    have value := congrArg Fin.val reached
    rw [ahead_val] at value
    -- The stop would be met on the way unless it lies outside the interval.
    have missed : ∀ m, 0 < m → m ≤ k → (start.val + m) % n ≠ stop.val := by
      intro m positive within equal
      refine avoids m positive within (Fin.ext ?_)
      rw [ahead_val]
      exact equal
    by_cases wraps : start.val + k < n
    · rw [Nat.mod_eq_of_lt wraps] at value
      by_cases ordered : start.val < stop.val
      · left
        refine ⟨by omega, ?_⟩
        by_contra beyond
        refine missed (stop.val - start.val) (by omega) (by omega) ?_
        rw [Nat.mod_eq_of_lt (by omega)]
        omega
      · exact .inr ⟨by omega, .inl (by omega)⟩
    · rw [Nat.mod_eq_sub_mod (by omega), Nat.mod_eq_of_lt (by omega)] at value
      by_cases ordered : start.val < stop.val
      · refine absurd ?_ (missed (stop.val - start.val) (by omega) (by omega))
        rw [Nat.mod_eq_of_lt (by omega)]
        omega
      · refine .inr ⟨by omega, .inr ?_⟩
        by_contra beyond
        refine missed (n - start.val + stop.val) (by omega) (by omega) ?_
        rw [Nat.mod_eq_sub_mod (by omega), Nat.mod_eq_of_lt (by omega)]
        omega
  · intro inside
    have position : ∀ m, m < n → (start.val + m) % n =
        if start.val + m < n then start.val + m else start.val + m - n := by
      intro m small
      split
      · next fits => exact Nat.mod_eq_of_lt fits
      · next wraps => rw [Nat.mod_eq_sub_mod (by omega), Nat.mod_eq_of_lt (by omega)]
    by_cases ordered : start.val ≤ j.val
    · refine ⟨j.val - start.val, by omega, Fin.ext ?_, ?_⟩
      · rw [ahead_val, position _ (by omega)]
        split <;> omega
      · intro m positive within equal
        have value := congrArg Fin.val equal
        rw [ahead_val, position _ (by omega)] at value
        split at value <;> omega
    · refine ⟨n - start.val + j.val, by omega, Fin.ext ?_, ?_⟩
      · rw [ahead_val, position _ (by omega)]
        split <;> omega
      · intro m positive within equal
        have value := congrArg Fin.val equal
        rw [ahead_val, position _ (by omega)] at value
        split at value <;> omega

theorem start_mem_arc (start stop : Fin n) : start ∈ arc start stop := by
  rw [mem_arc]
  rcases lt_or_ge start stop with ordered | backwards
  · exact .inl ⟨le_refl start, ordered⟩
  · exact .inr ⟨backwards, .inl (le_refl start)⟩

/-- The arcs from each start to the one after it, the last wrapping to
`stop`. -/
def arcsTo (stop : Fin n) (starts : List (Fin n)) : List (List (Fin n)) :=
  List.zipWith arc starts (starts.tail ++ [stop])

theorem exists_start_of_mem_arcsTo {stop : Fin n} {starts : List (Fin n)}
    {positions : List (Fin n)} (isArc : positions ∈ arcsTo stop starts) :
    ∃ start ∈ starts, ∃ last, positions = arc start last := by
  unfold arcsTo at isArc
  obtain ⟨_, _, rfl⟩ := List.mem_iff_getElem.mp isArc
  rw [List.getElem_zipWith]
  exact ⟨_, List.getElem_mem _, _, rfl⟩

section

variable {stop first : Fin n} {rest : List (Fin n)}

theorem arcsTo_cover (wraps : ∀ start ∈ first :: rest, stop ≤ start) {j : Fin n}
    (inside : first ≤ j ∨ j < stop) : ∃ positions ∈ arcsTo stop (first :: rest), j ∈ positions := by
  induction rest generalizing first with
  | nil =>
    refine ⟨arc first stop, by simp [arcsTo], mem_arc.mpr (.inr ⟨?_, inside⟩)⟩
    exact wraps first List.mem_cons_self
  | cons second _ ih =>
    by_cases here : first ≤ j ∧ j < second
    · exact ⟨arc first second, by simp [arcsTo], mem_arc.mpr (.inl ⟨here.1, here.2⟩)⟩
    · have beyond : second ≤ j ∨ j < stop := by
        rcases inside with from_first | before_stop
        · exact .inl (not_lt.mp fun early => here ⟨from_first, early⟩)
        · exact .inr before_stop
      obtain ⟨positions, isArc, member⟩ := ih
        (fun start later => wraps start (List.mem_cons_of_mem first later))
        beyond
      refine ⟨positions, ?_, member⟩
      exact List.mem_cons_of_mem (arc first second) isArc

theorem mem_of_mem_arcsTo (sorted : (first :: rest).Pairwise (· < ·)) {positions : List (Fin n)}
    (isArc : positions ∈ arcsTo stop (first :: rest)) {j : Fin n} (member : j ∈ positions) :
    first ≤ j ∨ j < stop := by
  induction rest generalizing first with
  | nil =>
    obtain rfl : positions = arc first stop := by simpa [arcsTo] using isArc
    rcases mem_arc.mp member with ⟨late, _⟩ | ⟨_, inside⟩
    · exact .inl late
    · exact inside
  | cons second _ ih =>
    obtain ⟨before, sortedRest⟩ := List.pairwise_cons.mp sorted
    have ordered := before second List.mem_cons_self
    rcases List.mem_cons.mp isArc with rfl | later
    · rcases mem_arc.mp member with ⟨late, _⟩ | ⟨backwards, _⟩
      · exact .inl late
      · exact absurd ordered (not_lt.mpr backwards)
    · rcases ih sortedRest later with late | inside
      · exact .inl (ordered.le.trans late)
      · exact .inr inside

theorem arcsTo_disjoint (sorted : (first :: rest).Pairwise (· < ·))
    (wraps : ∀ start ∈ first :: rest, stop ≤ start) :
    (arcsTo stop (first :: rest)).Pairwise List.Disjoint := by
  induction rest generalizing first with
  | nil => simp [arcsTo]
  | cons second _ ih =>
    obtain ⟨before, sortedRest⟩ := List.pairwise_cons.mp sorted
    have ordered := before second List.mem_cons_self
    have later := ih sortedRest fun start isLater =>
      wraps start (List.mem_cons_of_mem first isLater)
    refine List.pairwise_cons.mpr ⟨fun positions isArc => ?_, later⟩
    intro j here there
    have bounds := mem_of_mem_arcsTo sortedRest isArc there
    have fromFirst := wraps first List.mem_cons_self
    rcases mem_arc.mp here with ⟨late, early⟩ | ⟨backwards, _⟩
    · rcases bounds with beyond | wrapped
      · exact absurd early (not_lt.mpr beyond)
      · exact absurd (wrapped.trans_le (fromFirst.trans late)) (lt_irrefl j)
    · exact absurd ordered (not_lt.mpr backwards)

end

end CyclicOrder
