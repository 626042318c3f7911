import Mathlib.Algebra.Order.Field.Basic
import Mathlib.Tactic.Linarith

/-!
# Contracting chains

Chains of nodes that may be walked from one end to the other, each replaced by one
link between its ends. A node in the middle of a chain has no other way on than
along its chain, so walks between the other nodes are no shorter than walks along
the links. A walk may turn back in the middle of a chain when the chain may be
walked backwards.
-/

namespace Contraction

variable {Node K : Type*} [Field K]

/-- A walk along steps, and its length. -/
inductive Walk (step : Node → Node → K → Prop) : Node → Node → K → Prop
  | nil (node : Node) : Walk step node node 0
  | cons {first second last : Node} {ahead rest : K} (isStep : step first second ahead)
      (isWalk : Walk step second last rest) :
      Walk step first last (ahead + rest)

theorem Walk.append {step : Node → Node → K → Prop} {first second last : Node} {ahead rest : K}
    (isFirst : Walk step first second ahead) (isSecond : Walk step second last rest) :
    Walk step first last (ahead + rest) := by
  induction isFirst with
  | nil => rwa [zero_add]
  | cons isStep _ ih =>
    rw [add_assoc]
    exact Walk.cons isStep (ih isSecond)

section

variable (distance : Node → Node → K)

def chainLength : List Node → K
  | first :: second :: rest => distance first second + chainLength (second :: rest)
  | _ => 0

/-- A chain is as long as its two parts. -/
theorem chainLength_append (before : List Node) (node : Node) (after : List Node) :
    chainLength distance (before ++ node :: after) = chainLength distance (before ++ [node]) +
        chainLength distance (node :: after) := by
  induction before with
  | nil => simp [chainLength]
  | cons _ before ih =>
    cases before with
    | nil => simp [chainLength]
    | cons =>
      simp only [List.cons_append, chainLength, add_assoc] at ih ⊢
      rw [ih]

/-- A chain is as long backwards. -/
theorem chainLength_reverse
    (symmetric : ∀ first second, distance first second = distance second first)
    (chain : List Node) : chainLength distance chain.reverse = chainLength distance chain := by
  induction chain with
  | nil => rfl
  | cons first chain ih =>
    cases chain with
    | nil => rfl
    | cons second =>
      rw [List.reverse_cons, List.reverse_cons, List.append_assoc,
        List.singleton_append, chainLength_append, ← List.reverse_cons,
        ih, add_comm]
      simp only [chainLength, add_zero, symmetric second first]

theorem chainLength_nonneg [LinearOrder K] [IsStrictOrderedRing K]
    (nonneg : ∀ first second, 0 ≤ distance first second) (chain : List Node) :
    0 ≤ chainLength distance chain := by
  induction chain with
  | nil => exact le_rfl
  | cons first chain ih =>
    cases chain with
    | nil => exact le_rfl
    | cons second => exact add_nonneg (nonneg first second) ih

end

section

variable (distance : Node → Node → K) (traversable : List Node → Prop)

variable {length : K} {node goal : Node} {before after : List Node}

/-- A step from one node of a chain to the next. -/
def Step (first second : Node) (ahead : K) : Prop :=
  ∃ before after, traversable (before ++ first :: second :: after) ∧ ahead = distance first second

/-- A link from one end of a chain to the other, when they are different. -/
def Link (first last : Node) (ahead : K) : Prop :=
  ∃ chain, traversable chain ∧ chain.head? = some first ∧
    chain.getLast? = some last ∧ first ≠ last ∧ ahead = chainLength distance chain

/-- A node in the middle of a chain. -/
def Interior (node : Node) : Prop :=
  ∃ before after, before ≠ [] ∧ after ≠ [] ∧ traversable (before ++ node :: after)

/-- A node in the middle of a chain stands nowhere else, but for the same chain
backwards. -/
def InteriorsUnique : Prop :=
  ∀ node before after, before ≠ [] → after ≠ [] → traversable (before ++ node :: after) →
      ∀ before' after', traversable (before' ++ node :: after') →
        before' = before ∧ after' = after ∨ before' = after.reverse ∧ after' = before.reverse

variable {distance traversable}

theorem walk_of_chain {first last : Node} (before : List Node) {rest : List Node}
    (isTraversable : traversable (before ++ first :: rest))
    (isLast : (first :: rest).getLast? = some last) :
    Walk (Step distance traversable) first last (chainLength distance (first :: rest)) := by
  induction rest generalizing before first with
  | nil =>
    obtain rfl : first = last := by simpa using isLast
    exact Walk.nil first
  | cons _ rest ih =>
    refine Walk.cons ⟨before, rest, isTraversable, rfl⟩
      (ih (before ++ [first]) (by simpa using isTraversable) ?_)
    rwa [List.getLast?_cons_cons] at isLast

theorem walk_of_links {first last : Node}
    (isWalk : Walk (Link distance traversable) first last length) :
    Walk (Step distance traversable) first last length := by
  induction isWalk with
  | nil node => exact Walk.nil node
  | cons isLink _ ih =>
    obtain ⟨chain, isTraversable, isFirst, isLast, -, rfl⟩ := isLink
    cases chain with
    | nil => cases isFirst
    | cons =>
      cases isFirst
      exact (walk_of_chain [] isTraversable isLast).append ih

variable [LinearOrder K] (distance traversable)

/-- A goal can be reached along the links within a length. -/
def Within (node goal : Node) (length : K) : Prop :=
  ∃ shorter ≤ length, Walk (Link distance traversable) node goal shorter

/-- From the middle of a chain a goal is reached through one of its ends. -/
def Continued (before : List Node) (node : Node) (after : List Node) (goal : Node)
    (length : K) : Prop :=
  (∃ last, (node :: after).getLast? = some last ∧ Within distance traversable last goal
        (length - chainLength distance (node :: after))) ∨
    traversable (after.reverse ++ node :: before.reverse) ∧
      ∃ first, (before ++ [node]).head? = some first ∧ Within distance traversable first goal
          (length - chainLength distance (before ++ [node]))

variable {distance traversable}

theorem Within.mono {longer : K} (within : Within distance traversable node goal length)
    (isLonger : length ≤ longer) : Within distance traversable node goal longer := by
  obtain ⟨shorter, isShorter, isWalk⟩ := within
  exact ⟨shorter, isShorter.trans isLonger, isWalk⟩

variable [IsStrictOrderedRing K] (nonneg : ∀ first second, 0 ≤ distance first second)
  (symmetric : ∀ first second, distance first second = distance second first)
  (unique : InteriorsUnique traversable)

include nonneg

/-- What is reached through an end of a chain is reached from its other end. -/
theorem within_of_chain (isStart : before = [])
    (isTraversable : traversable (before ++ node :: after))
    (continued : Continued distance traversable before node after goal length) :
    Within distance traversable node goal length := by
  subst isStart
  obtain ⟨last, isLast, shorter, isShorter, isWalk⟩ | ⟨-, first, isFirst, within⟩ := continued
  · have isNonneg := chainLength_nonneg distance nonneg (node :: after)
    by_cases isLoop : node = last
    · subst isLoop
      exact ⟨shorter, by linarith, isWalk⟩
    · refine ⟨chainLength distance (node :: after) + shorter, by linarith, ?_⟩
      exact Walk.cons ⟨node :: after, isTraversable, rfl, isLast, isLoop, rfl⟩ isWalk
  · obtain rfl : node = first := by simpa using isFirst
    simpa [chainLength] using within

include unique

/-- A walk that takes a step along a chain goes on through one of its ends. -/
theorem continued_of_step {first second : Node} {rest : K}
    (isTraversable : traversable (before ++ first :: second :: after))
    (fromEnd : ¬ Interior traversable second → Within distance traversable second goal rest)
    (fromMiddle : ∀ before after, before ≠ [] → after ≠ [] → traversable (before ++ second :: after)
      → Continued distance traversable before second after goal rest) :
    Continued distance traversable before first (second :: after) goal
      (distance first second + rest) := by
  have isStep := nonneg first second
  have traversable' : traversable ((before ++ [first]) ++ second :: after) := by
    simpa using isTraversable
  by_cases isEnd : after = []
  · subst isEnd
    have notInterior : ¬ Interior traversable second := by
      rintro ⟨earlier, later, earlierNe, laterNe, isMiddle⟩
      obtain ⟨-, isNil⟩ | ⟨-, isNil⟩ := unique second earlier later earlierNe laterNe
        isMiddle _ _ traversable'
      · exact laterNe isNil.symm
      · exact earlierNe (List.reverse_eq_nil_iff.mp isNil.symm)
    left
    refine ⟨second, rfl, (fromEnd notInterior).mono ?_⟩
    simp [chainLength]
  · obtain ⟨last, isLast, within⟩ | ⟨isBack, start, isStart, within⟩ :=
      fromMiddle (before ++ [first]) after (by simp) isEnd traversable'
    · left
      refine ⟨last, by rwa [List.getLast?_cons_cons], within.mono ?_⟩
      simp only [chainLength]
      linarith
    · right
      refine ⟨by simpa using isBack, start, ?_, within.mono ?_⟩
      · cases before <;> simpa using isStart
      · rw [List.append_assoc, List.singleton_append, chainLength_append]
        simp only [chainLength]
        linarith

omit nonneg unique

include symmetric

omit [IsStrictOrderedRing K] in
/-- The middle of a chain is the middle of the chain backwards. -/
theorem Continued.backwards {before after : List Node} {node goal : Node} {length : K}
    (isTraversable : traversable (before ++ node :: after))
    (continued : Continued distance traversable before node after goal length) :
    Continued distance traversable after.reverse node before.reverse goal length := by
  obtain ⟨last, isLast, within⟩ | ⟨-, first, isFirst, within⟩ := continued
  · right
    rw [List.reverse_reverse, List.reverse_reverse, ← List.reverse_cons,
      chainLength_reverse distance symmetric, List.head?_reverse]
    exact ⟨isTraversable, last, isLast, within⟩
  · left
    have isReverse : node :: before.reverse = (before ++ [node]).reverse := by simp
    rw [isReverse, chainLength_reverse distance symmetric, List.getLast?_reverse]
    exact ⟨first, isFirst, within⟩

include nonneg unique

/-- A walk to a goal that is at no middle of a chain contracts: from an end of chains
it is no shorter than a walk along links, and from the middle of a chain it goes on
through one of the ends. -/
theorem walk_contracts (goalNotInterior : ¬ Interior traversable goal)
    (isWalk : Walk (Step distance traversable) node goal length) :
    (¬ Interior traversable node → Within distance traversable node goal length) ∧
      ∀ before after, before ≠ [] → after ≠ [] → traversable (before ++ node :: after) →
          Continued distance traversable before node after goal length := by
  induction isWalk with
  | nil node =>
    refine ⟨fun _ => ⟨0, le_rfl, Walk.nil node⟩, ?_⟩
    intro before after beforeNe afterNe isTraversable
    exact absurd ⟨before, after, beforeNe, afterNe, isTraversable⟩ goalNotInterior
  | cons isStep _ ih =>
    obtain ⟨fromEnd, fromMiddle⟩ := ih goalNotInterior
    obtain ⟨before, after, isTraversable, rfl⟩ := isStep
    have continued := continued_of_step nonneg unique isTraversable fromEnd fromMiddle
    refine ⟨fun notInterior => ?_, ?_⟩
    · refine within_of_chain nonneg ?_ isTraversable continued
      by_contra beforeNe
      exact notInterior ⟨before, _, beforeNe, List.cons_ne_nil _ _, isTraversable⟩
    · intro earlier later earlierNe laterNe isMiddle
      obtain ⟨rfl, rfl⟩ | ⟨rfl, isAfter⟩ := unique _ earlier later earlierNe laterNe
        isMiddle before _ isTraversable
      · exact continued
      -- The chain of the step is the other one backwards.
      · rw [isAfter] at continued isTraversable
        simpa using continued.backwards symmetric isTraversable

end

section

variable [LinearOrder K] [IsStrictOrderedRing K] {distance : Node → Node → K}
  {traversable : List Node → Prop}
  (nonneg : ∀ first second, 0 ≤ distance first second)
  (symmetric : ∀ first second, distance first second = distance second first)
  (unique : InteriorsUnique traversable)
  {first last : Node}
  (firstNotInterior : ¬ Interior traversable first)
  (lastNotInterior : ¬ Interior traversable last)

include nonneg symmetric unique firstNotInterior lastNotInterior

theorem exists_walk_iff : (∃ length, Walk (Step distance traversable) first last length) ↔
      ∃ length, Walk (Link distance traversable) first last length := by
  constructor
  · rintro ⟨length, isWalk⟩
    obtain ⟨shorter, -, isShorter⟩ :=
      (walk_contracts nonneg symmetric unique lastNotInterior isWalk).1 firstNotInterior
    exact ⟨shorter, isShorter⟩
  · rintro ⟨length, isWalk⟩
    exact ⟨length, walk_of_links isWalk⟩

/-- The shortest walk along the chains and the shortest walk along the links are
equally long. -/
theorem isLeast_walk_iff (length : K) :
    IsLeast {ahead | Walk (Step distance traversable) first last ahead} length ↔
      IsLeast {ahead | Walk (Link distance traversable) first last ahead} length := by
  constructor
  · rintro ⟨isWalk, isLeast⟩
    obtain ⟨shorter, isShorter, isLinked⟩ :=
      (walk_contracts nonneg symmetric unique lastNotInterior isWalk).1 firstNotInterior
    have same : shorter = length := le_antisymm isShorter (isLeast (walk_of_links isLinked))
    exact ⟨same ▸ isLinked, fun other isOther => isLeast (walk_of_links isOther)⟩
  · rintro ⟨isWalk, isLeast⟩
    refine ⟨walk_of_links isWalk, fun other isOther => ?_⟩
    obtain ⟨shorter, isShorter, isLinked⟩ :=
      (walk_contracts nonneg symmetric unique lastNotInterior isOther).1 firstNotInterior
    exact (isLeast isLinked).trans isShorter

end

end Contraction
