import Mathlib.Data.List.Basic
import Mathlib.Order.Basic

/-!
# Values read again at boundaries

A value that changes with time is read at the first time and again at the times when
another boundary has come due. If the value changes only where a boundary comes due,
what was read last is the value at every time.
-/

namespace Segments

variable {Boundary Value : Type*}

/-- The boundaries that are not reached, and the value that was read last. -/
structure Held (Boundary Value : Type*) where
  pending : List Boundary
  value : Value

def Held.read (due : Boundary → Bool) (fresh : Value)
    (held : Held Boundary Value) : Held Boundary Value :=
  match held.pending with
  | [] => held
  | next :: _ =>
    if due next then ⟨held.pending.dropWhile due, fresh⟩
    else held

def during (due : Nat → Boundary → Bool) (fresh : Nat → Value)
    (start : Held Boundary Value) : Nat → Held Boundary Value
  | 0 => start.read (due 0) (fresh 0)
  | tick + 1 => (during due fresh start tick).read (due (tick + 1)) (fresh (tick + 1))

/-- Of boundaries in order, those that are due come first. -/
def InOrder (due : Boundary → Bool) (boundaries : List Boundary) : Prop :=
  boundaries.Pairwise fun first second => due second = true → due first = true

theorem dropWhile_eq_filter {due : Boundary → Bool} {boundaries : List Boundary}
    (inOrder : InOrder due boundaries) :
    boundaries.dropWhile due = boundaries.filter fun boundary => !due boundary := by
  induction boundaries with
  | nil => rfl
  | cons first rest ih =>
    obtain ⟨before, restInOrder⟩ := List.pairwise_cons.mp inOrder
    cases isDue : due first with
    | true => simp [isDue, ih restInOrder]
    | false =>
      have noneDue : ∀ other ∈ rest, due other = false := by
        intro other isOther
        rw [Bool.eq_false_iff]
        intro otherDue
        rw [before other isOther otherDue] at isDue
        cases isDue
      have allKept : (rest.filter fun other => !due other) = rest := by
        rw [List.filter_eq_self]
        intro other isOther
        rw [noneDue other isOther]
        rfl
      simp [isDue, allKept]

section

variable {due : Nat → Boundary → Bool} {fresh : Nat → Value} {boundaries : List Boundary}

/-- A tick passes the boundaries that are due, and holds the fresh value where the
value before was fresh and nothing came due. -/
theorem Held.read_spec {tick : Nat} {held : Held Boundary Value}
    (inOrder : InOrder (due tick) held.pending) : (held.read (due tick) (fresh tick)).pending =
        held.pending.filter (fun boundary => !due tick boundary) ∧
      ((∃ boundary ∈ held.pending, due tick boundary = true) →
        (held.read (due tick) (fresh tick)).value = fresh tick) ∧
      ((∀ boundary ∈ held.pending, due tick boundary = false) →
        held.read (due tick) (fresh tick) = held) := by
  obtain ⟨pending, value⟩ := held
  cases pending with
  | nil =>
    refine ⟨rfl, ?_, fun _ => rfl⟩
    rintro ⟨boundary, isPending, _⟩
    cases isPending
  | cons next rest =>
    cases isDue : due tick next with
    | true =>
      simp only [Held.read, isDue, if_true]
      refine ⟨dropWhile_eq_filter inOrder, fun _ => trivial, fun noneDue => ?_⟩
      rw [noneDue next List.mem_cons_self] at isDue
      cases isDue
    | false =>
      have noneDue : ∀ boundary ∈ next :: rest, due tick boundary = false := by
        intro boundary isPending
        rcases List.mem_cons.mp isPending with rfl | isLater
        · exact isDue
        · rw [Bool.eq_false_iff]
          intro laterDue
          rw [(List.pairwise_cons.mp inOrder).1 boundary isLater laterDue] at isDue
          cases isDue
      simp only [Held.read, isDue, Bool.false_eq_true, if_false]
      refine ⟨?_, ?_, fun _ => trivial⟩
      · symm
        rw [List.filter_eq_self]
        intro boundary isPending
        rw [noneDue boundary isPending]
        rfl
      · rintro ⟨boundary, isPending, boundaryDue⟩
        rw [noneDue boundary isPending] at boundaryDue
        cases boundaryDue

theorem during_value (inOrder : ∀ tick, InOrder (due tick) boundaries)
    (mono : ∀ tick boundary, due tick boundary = true → due (tick + 1) boundary = true)
    (first : ∃ boundary ∈ boundaries, due 0 boundary = true) {limit : Nat}
    (constant : ∀ tick < limit, (∀ boundary ∈ boundaries, due (tick + 1) boundary = true →
        due tick boundary = true) → fresh (tick + 1) = fresh tick) (initial : Value) {tick : Nat}
    (isWithin : tick ≤ limit) : (during due fresh ⟨boundaries, initial⟩ tick).pending =
        boundaries.filter (fun boundary => !due tick boundary) ∧
      (during due fresh ⟨boundaries, initial⟩ tick).value = fresh tick := by
  induction tick with
  | zero =>
    obtain ⟨pending, value, _⟩ := @Held.read_spec _ _ due fresh 0 ⟨boundaries, initial⟩ (inOrder 0)
    exact ⟨pending, value first⟩
  | succ tick ih =>
    obtain ⟨isPending, isValue⟩ := ih (Nat.le_of_succ_le isWithin)
    have stillInOrder : InOrder (due (tick + 1))
        (during due fresh ⟨boundaries, initial⟩ tick).pending := by
      rw [isPending]
      exact (inOrder (tick + 1)).sublist List.filter_sublist
    obtain ⟨pending, read, kept⟩ := @Held.read_spec _ _ due fresh (tick + 1) _ stillInOrder
    refine ⟨?_, ?_⟩
    · rw [during, pending, isPending, List.filter_filter]
      apply List.filter_congr
      intro boundary _
      cases isDue : due tick boundary with
      | true => rw [mono tick boundary isDue]; rfl
      | false => simp
    · by_cases anyDue : ∃ boundary ∈ boundaries,
          due tick boundary = false ∧ due (tick + 1) boundary = true
      · obtain ⟨boundary, isBoundary, wasNot, isDue⟩ := anyDue
        apply read
        refine ⟨boundary, ?_, isDue⟩
        rw [isPending, List.mem_filter, wasNot]
        exact ⟨isBoundary, rfl⟩
      · rw [during, kept, isValue]
        · refine (constant tick (Nat.lt_of_succ_le isWithin) ?_).symm
          intro boundary isBoundary isDue
          by_contra wasNot
          exact anyDue ⟨boundary, isBoundary, Bool.eq_false_iff.mpr wasNot, isDue⟩
        · intro boundary isThere
          rw [isPending, List.mem_filter] at isThere
          rw [Bool.eq_false_iff]
          intro isDue
          refine anyDue ⟨boundary, isThere.1, ?_, isDue⟩
          simpa using isThere.2

end

end Segments
