import Mathlib.Algebra.Order.BigOperators.Group.List
import Mathlib.Algebra.Order.Field.Basic
import Mathlib.Data.Finset.Card
import Mathlib.Tactic.Linarith

/-!
# Label setting with a tolerance

Weighted edges between places, and the chains of edges from one place to another. A
label-setting search settles the labelled places in the order of their labels and
relaxes the edges that leave them; a label gives way only to one that is less by
more than a tolerance.

The label of a settled place is the cost of a chain to it. It exceeds the cost of
any other chain by at most one tolerance for each place settled so far that an edge
leaves.
-/

namespace LabelSetting

variable {Place Edge K : Type*}

structure Network (Place Edge K : Type*) where
  edges : List Edge
  source : Edge → Place
  target : Edge → Place
  weight : Edge → K

namespace Network

/-- A chain of edges leads from one place to another. -/
def Chain (net : Network Place Edge K) : Place → List Edge → Place → Prop
  | origin, [], destination => origin = destination
  | origin, edge :: rest, destination =>
    edge ∈ net.edges ∧ net.source edge = origin ∧ Chain net (net.target edge) rest destination

/-- The sum of the weights along a chain. -/
def cost [AddMonoid K] (net : Network Place Edge K) (chain : List Edge) : K :=
  (chain.map net.weight).sum

variable {net : Network Place Edge K}

theorem chain_append {origin destination : Place} {first second : List Edge} :
    net.Chain origin (first ++ second) destination ↔ ∃ between, net.Chain origin first between ∧
        net.Chain between second destination := by
  induction first generalizing origin with
  | nil =>
    constructor
    · exact fun isChain => ⟨origin, rfl, isChain⟩
    · rintro ⟨between, rfl, isChain⟩
      exact isChain
  | cons _ _ ih =>
    simp only [List.cons_append, Chain, ih]
    constructor
    · rintro ⟨isEdge, leaves, between, before, after⟩
      exact ⟨between, ⟨isEdge, leaves, before⟩, after⟩
    · rintro ⟨between, ⟨isEdge, leaves, before⟩, after⟩
      exact ⟨isEdge, leaves, between, before, after⟩

theorem Chain.mem_edges {origin destination : Place} {chain : List Edge}
    (isChain : net.Chain origin chain destination) {edge : Edge} (isMember : edge ∈ chain) :
    edge ∈ net.edges := by
  induction chain generalizing origin with
  | nil => cases isMember
  | cons _ _ ih =>
    obtain ⟨isEdge, _, isRest⟩ := isChain
    rcases List.mem_cons.mp isMember with rfl | isLater
    · exact isEdge
    · exact ih isRest isLater

/-- A chain that leads out of a set of places has an edge that leads out of it. -/
theorem Chain.exists_exit {inside : Place → Prop} {origin destination : Place} {chain : List Edge}
    (isChain : net.Chain origin chain destination) (starts : inside origin)
    (ends : ¬ inside destination) : ∃ before edge after,
      chain = before ++ edge :: after ∧ net.Chain origin before (net.source edge) ∧
        edge ∈ net.edges ∧ inside (net.source edge) ∧ ¬ inside (net.target edge) := by
  induction chain generalizing origin with
  | nil =>
    obtain rfl : origin = destination := isChain
    exact absurd starts ends
  | cons edge rest ih =>
    obtain ⟨isEdge, rfl, isRest⟩ := isChain
    by_cases stays : inside (net.target edge)
    · obtain ⟨before, exit, after, rfl, isBefore, isExit, leaves, enters⟩ := ih isRest stays
      exact ⟨edge :: before, exit, after, rfl, ⟨isEdge, rfl, isBefore⟩, isExit, leaves, enters⟩
    · exact ⟨[], edge, rest, rfl, rfl, isEdge, starts, stays⟩

section Costs

variable [AddCommMonoid K]

@[simp] theorem cost_nil : net.cost [] = 0 := rfl

@[simp] theorem cost_append (first second : List Edge) :
    net.cost (first ++ second) = net.cost first + net.cost second := by
  simp only [cost, List.map_append, List.sum_append]

@[simp] theorem cost_cons (edge : Edge) (rest : List Edge) :
    net.cost (edge :: rest) = net.weight edge + net.cost rest := by
  simp only [cost, List.map_cons, List.sum_cons]

theorem cost_nonneg [PartialOrder K] [IsOrderedAddMonoid K] (nonneg : ∀ edge, 0 ≤ net.weight edge)
    (chain : List Edge) : 0 ≤ net.cost chain := by
  apply List.sum_nonneg
  intro weight isWeight
  obtain ⟨edge, _, rfl⟩ := List.mem_map.mp isWeight
  exact nonneg edge

end Costs

end Network

/-- The best cost known of each place, and the edge it was reached by. -/
structure Labels (Place Edge K : Type*) where
  best : Place → Option K
  via : Place → Option Edge

variable [DecidableEq Place] [Field K] [LinearOrder K]

/-- A cost is less than a known one by more than the tolerance. -/
def Improves (tolerance step : K) (known : Option K) : Prop :=
  ∀ cost, known = some cost → step < cost - tolerance

open Classical in
/-- One edge relaxed, out of a place with a label of `cost`. -/
noncomputable def relax (net : Network Place Edge K) (tolerance cost : K)
    (labels : Labels Place Edge K) (edge : Edge) : Labels Place Edge K :=
  if Improves tolerance (cost + net.weight edge) (labels.best (net.target edge)) then
    { best := Function.update labels.best (net.target edge) (some (cost + net.weight edge))
      via := Function.update labels.via (net.target edge) (some edge) }
  else labels

/-- What relaxing edges leaves: a label stays, or one of the edges improved it; and
no edge could improve one by more than the tolerance any more. -/
structure Relaxed (net : Network Place Edge K) (tolerance cost : K) (leaving : List Edge)
    (labels after : Labels Place Edge K) : Prop where
  label (place : Place) :
    (after.best place = labels.best place ∧ after.via place = labels.via place) ∨
      ∃ edge ∈ leaving, net.target edge = place ∧ after.via place = some edge ∧
        after.best place = some (cost + net.weight edge) ∧
        Improves tolerance (cost + net.weight edge) (labels.best place)
  reached (edge : Edge) (leaves : edge ∈ leaving) :
    ∃ reached, after.best (net.target edge) = some reached ∧
      reached ≤ cost + net.weight edge + tolerance

variable [IsStrictOrderedRing K] {net : Network Place Edge K} {tolerance : K}

section Relaxing

variable (tolerance_nonneg : 0 ≤ tolerance) {labels : Labels Place Edge K} {cost : K}

include tolerance_nonneg

theorem relaxed_one (edge : Edge) :
    Relaxed net tolerance cost [edge] labels (relax net tolerance cost labels edge) := by
  by_cases improves : Improves tolerance (cost + net.weight edge) (labels.best (net.target edge))
  · simp only [relax, if_pos improves]
    constructor
    · intro place
      by_cases isTarget : place = net.target edge
      · subst isTarget
        exact Or.inr ⟨edge, List.mem_singleton_self edge, rfl,
          Function.update_self _ _ _, Function.update_self _ _ _, improves⟩
      · exact Or.inl ⟨Function.update_of_ne isTarget _ _, Function.update_of_ne isTarget _ _⟩
    · rintro other isOther
      obtain rfl := List.mem_singleton.mp isOther
      exact ⟨_, Function.update_self _ _ _, by linarith⟩
  · simp only [relax, if_neg improves]
    constructor
    · exact fun place => Or.inl ⟨rfl, rfl⟩
    · rintro other isOther
      obtain rfl := List.mem_singleton.mp isOther
      simp only [Improves, not_forall, not_lt] at improves
      obtain ⟨known, isKnown, atMost⟩ := improves
      exact ⟨known, isKnown, by linarith⟩

omit [DecidableEq Place] in
theorem Relaxed.trans {between after : Labels Place Edge K} {first second : List Edge}
    (before : Relaxed net tolerance cost first labels between)
    (next : Relaxed net tolerance cost second between after) :
    Relaxed net tolerance cost (first ++ second) labels after := by
  constructor
  · intro place
    rcases next.label place with ⟨sameBest, sameVia⟩ | improved
    · rcases before.label place with ⟨stillBest, stillVia⟩ | improved
      · exact Or.inl ⟨sameBest.trans stillBest, sameVia.trans stillVia⟩
      · obtain ⟨edge, isEdge, isTarget, via, best, improves⟩ := improved
        exact Or.inr ⟨edge, List.mem_append_left _ isEdge, isTarget,
          sameVia.trans via, sameBest.trans best, improves⟩
    · obtain ⟨edge, isEdge, isTarget, via, best, improves⟩ := improved
      refine Or.inr ⟨edge, List.mem_append_right _ isEdge, isTarget, via, best, ?_⟩
      rcases before.label place with ⟨stillBest, _⟩ | earlier
      · rwa [stillBest] at improves
      · -- the earlier improvement was of the old label, and this one of the earlier
        obtain ⟨_, _, _, _, betweenBest, improvedOld⟩ := earlier
        intro known isKnown
        have again := improves _ betweenBest
        have once := improvedOld known isKnown
        linarith
  · intro edge leaves
    rcases List.mem_append.mp leaves with isFirst | isSecond
    · obtain ⟨reached, isReached, atMost⟩ := before.reached edge isFirst
      rcases next.label (net.target edge) with ⟨sameBest, _⟩ | improved
      · exact ⟨reached, sameBest.trans isReached, atMost⟩
      · obtain ⟨other, _, _, _, best, improves⟩ := improved
        have less := improves reached isReached
        exact ⟨_, best, by linarith⟩
    · exact next.reached edge isSecond

theorem relaxed_all (leaving : List Edge) (labels : Labels Place Edge K) :
    Relaxed net tolerance cost leaving labels
      (leaving.foldl (relax net tolerance cost) labels) := by
  induction leaving generalizing labels with
  | nil => exact ⟨fun place => Or.inl ⟨rfl, rfl⟩, fun edge leaves => by cases leaves⟩
  | cons edge _ ih => exact (relaxed_one tolerance_nonneg edge).trans tolerance_nonneg (ih _)

end Relaxing

/-- How many of the places an edge leaves. -/
def departed (net : Network Place Edge K) (places : List Place) : Nat :=
  (places.filter fun place => place ∈ net.edges.map net.source).length

/-- What holds between two rounds of a label-setting search. -/
structure Sound (net : Network Place Edge K) (tolerance : K) (origin : Place)
    (labels : Labels Place Edge K) (settled : List Place) : Prop where
  origin_best : labels.best origin = some 0
  origin_via : labels.via origin = none
  best_nonneg (place : Place) (cost : K) (best : labels.best place = some cost) : 0 ≤ cost
  nodup : settled.Nodup
  settled_best (place : Place) (isSettled : place ∈ settled) : ∃ cost, labels.best place = some cost
  ordered (place : Place) (isSettled : place ∈ settled)
    (other : Place) (unsettled : other ∉ settled)
    (cost later : K) (best : labels.best place = some cost)
    (otherBest : labels.best other = some later) : cost ≤ later
  traced (place : Place) (edge : Edge) (isVia : labels.via place = some edge) :
    edge ∈ net.edges ∧ net.target edge = place ∧ net.source edge ∈ settled ∧
      ∃ cost, labels.best (net.source edge) = some cost ∧
        labels.best place = some (cost + net.weight edge)
  labelled (place : Place) (cost : K) (best : labels.best place = some cost)
    (differs : place ≠ origin) : ∃ edge, labels.via place = some edge
  relaxed (edge : Edge) (isEdge : edge ∈ net.edges) (isSettled : net.source edge ∈ settled) :
    ∃ cost reached, labels.best (net.source edge) = some cost ∧
      labels.best (net.target edge) = some reached ∧
      reached ≤ cost + net.weight edge + tolerance
  within (place : Place) (isSettled : place ∈ settled)
    (cost : K) (best : labels.best place = some cost)
    (chain : List Edge) (isChain : net.Chain origin chain place) :
    cost + departed net [place] * tolerance ≤ net.cost chain + departed net settled * tolerance

structure Least (labels : Labels Place Edge K) (settled : List Place) (place : Place)
    (cost : K) : Prop where
  unsettled : place ∉ settled
  best : labels.best place = some cost
  least (other : Place) (isOther : other ∉ settled)
    (later : K) (otherBest : labels.best other = some later) : cost ≤ later

section Departed

omit [Field K] [LinearOrder K] [IsStrictOrderedRing K]

theorem departed_cons (place : Place) (places : List Place) :
    departed net (place :: places) = departed net [place] + departed net places := by
  simp only [departed]
  rw [← List.singleton_append, List.filter_append, List.length_append]

theorem departed_source {edge : Edge} (isEdge : edge ∈ net.edges) :
    departed net [net.source edge] = 1 := by
  have leaves : net.source edge ∈ net.edges.map net.source := List.mem_map_of_mem isEdge
  simp only [departed, leaves, decide_true, List.filter_cons_of_pos,
    List.filter_nil, List.length_singleton]

theorem departed_le {places sources : List Place} (nodup : places.Nodup)
    (covers : ∀ edge ∈ net.edges, net.source edge ∈ sources) :
    departed net places ≤ sources.length := by
  apply ((nodup.filter _).subperm _).length_le
  intro place isThere
  obtain ⟨_, leaves⟩ := List.mem_filter.mp isThere
  obtain ⟨edge, isEdge, rfl⟩ := List.mem_map.mp (of_decide_eq_true leaves)
  exact covers edge isEdge

end Departed

section

variable {origin : Place} {labels : Labels Place Edge K} {settled : List Place}
variable (nonneg : ∀ edge, 0 ≤ net.weight edge) (tolerance_nonneg : 0 ≤ tolerance)

include nonneg tolerance_nonneg

theorem Sound.least_le {place : Place} {cost : K}
    (sound : Sound net tolerance origin labels settled)
    (isLeast : Least labels settled place cost) {chain : List Edge}
    (isChain : net.Chain origin chain place) :
    cost ≤ net.cost chain + departed net settled * tolerance := by
  have share_nonneg : 0 ≤ (departed net settled : K) * tolerance :=
    mul_nonneg (Nat.cast_nonneg _) tolerance_nonneg
  by_cases starts : origin ∈ settled
  · -- the chain leaves the settled places by an edge that is relaxed
    obtain ⟨before, exit, after, rfl, isBefore, isExit, isSettled, unsettled⟩ :=
      isChain.exists_exit starts isLeast.unsettled
    obtain ⟨_, _, best, targetBest, _⟩ := sound.relaxed exit isExit isSettled
    have bound := sound.within _ isSettled _ best before isBefore
    rw [departed_source isExit, Nat.cast_one, one_mul] at bound
    have isLess := isLeast.least _ unsettled _ targetBest
    have rest_nonneg := Network.cost_nonneg nonneg after
    rw [Network.cost_append, Network.cost_cons]
    linarith
  · have isLess := isLeast.least _ starts _ sound.origin_best
    have chain_nonneg := Network.cost_nonneg nonneg chain
    linarith

section

variable {place : Place} {cost : K} {leaving : List Edge} {after : Labels Place Edge K}
  (sound : Sound net tolerance origin labels settled) (isLeast : Least labels settled place cost)

include sound isLeast

theorem Sound.keeps (relaxed : Relaxed net tolerance cost leaving labels after) {other : Place}
    (isSettled : other ∈ place :: settled) :
    after.best other = labels.best other ∧ after.via other = labels.via other := by
  have atMost : ∃ known, labels.best other = some known ∧ known ≤ cost := by
    rcases List.mem_cons.mp isSettled with rfl | earlier
    · exact ⟨cost, isLeast.best, le_rfl⟩
    · obtain ⟨known, isKnown⟩ := sound.settled_best other earlier
      exact ⟨known, isKnown,
        sound.ordered other earlier place isLeast.unsettled known cost isKnown isLeast.best⟩
  rcases relaxed.label other with same | ⟨edge, _, _, _, _, improves⟩
  · exact same
  · obtain ⟨known, isKnown, isLess⟩ := atMost
    have improved := improves known isKnown
    have weight_nonneg := nonneg edge
    linarith

theorem Sound.settle
    (isLeaving : ∀ edge, edge ∈ leaving ↔ edge ∈ net.edges ∧ net.source edge = place)
    (relaxed : Relaxed net tolerance cost leaving labels after) :
    Sound net tolerance origin after (place :: settled) := by
  have keeps {other : Place} (isSettled : other ∈ place :: settled) :=
    sound.keeps nonneg tolerance_nonneg isLeast relaxed isSettled
  have placeBest : after.best place = some cost := (keeps List.mem_cons_self).1.trans isLeast.best
  have origin_kept :
      after.best origin = labels.best origin ∧ after.via origin = labels.via origin := by
    rcases relaxed.label origin with same | ⟨edge, _, _, _, _, improves⟩
    · exact same
    · have improved := improves 0 sound.origin_best
      have cost_nonneg := sound.best_nonneg place cost isLeast.best
      have weight_nonneg := nonneg edge
      linarith
  constructor
  case origin_best => exact origin_kept.1.trans sound.origin_best
  case origin_via => exact origin_kept.2.trans sound.origin_via
  case best_nonneg =>
    intro other known best
    rcases relaxed.label other with ⟨same, _⟩ | ⟨edge, _, _, _, newBest, _⟩
    · exact sound.best_nonneg other known (same.symm.trans best)
    · cases newBest.symm.trans best
      exact add_nonneg (sound.best_nonneg place cost isLeast.best) (nonneg edge)
  case nodup => exact List.nodup_cons.mpr ⟨isLeast.unsettled, sound.nodup⟩
  case settled_best =>
    intro other isSettled
    rw [(keeps isSettled).1]
    rcases List.mem_cons.mp isSettled with rfl | earlier
    · exact ⟨cost, isLeast.best⟩
    · exact sound.settled_best other earlier
  case ordered =>
    intro first isSettled other unsettled firstCost later best otherBest
    rw [(keeps isSettled).1] at best
    have firstLe : firstCost ≤ cost := by
      rcases List.mem_cons.mp isSettled with rfl | earlier
      · exact (Option.some.inj (best.symm.trans isLeast.best)).le
      · exact sound.ordered first earlier place isLeast.unsettled _ _ best isLeast.best
    obtain ⟨_, stillUnsettled⟩ := not_or.mp (mt List.mem_cons.mpr unsettled)
    rcases relaxed.label other with ⟨same, _⟩ | ⟨edge, _, _, _, newBest, _⟩
    · rw [same] at otherBest
      exact firstLe.trans (isLeast.least other stillUnsettled later otherBest)
    · cases newBest.symm.trans otherBest
      have weight_nonneg := nonneg edge
      linarith
  case traced =>
    intro other edge isVia
    rcases relaxed.label other with ⟨sameBest, sameVia⟩ | improved
    · rw [sameVia] at isVia
      obtain ⟨isEdge, isTarget, isSettled, known, sourceBest, best⟩ := sound.traced other edge isVia
      have stays := List.mem_cons_of_mem place isSettled
      exact ⟨isEdge, isTarget, stays, known, (keeps stays).1.trans sourceBest, sameBest.trans best⟩
    · obtain ⟨taken, leaves, isTarget, newVia, newBest, _⟩ := improved
      obtain rfl := Option.some.inj (newVia.symm.trans isVia)
      obtain ⟨isEdge, rfl⟩ := (isLeaving taken).mp leaves
      exact ⟨isEdge, isTarget, List.mem_cons_self, cost, placeBest, newBest⟩
  case labelled =>
    intro other known best differs
    rcases relaxed.label other with ⟨sameBest, sameVia⟩ | improved
    · rw [sameVia]
      exact sound.labelled other known (sameBest.symm.trans best) differs
    · obtain ⟨taken, _, _, newVia, _, _⟩ := improved
      exact ⟨taken, newVia⟩
  case relaxed =>
    intro edge isEdge isSettled
    rcases List.mem_cons.mp isSettled with isPlace | earlier
    · obtain ⟨reached, isReached, atMost⟩ :=
        relaxed.reached edge ((isLeaving edge).mpr ⟨isEdge, isPlace⟩)
      exact ⟨cost, reached, isPlace ▸ placeBest, isReached, atMost⟩
    · obtain ⟨known, reached, sourceBest, targetBest, atMost⟩ := sound.relaxed edge isEdge earlier
      have sourceKept := (keeps isSettled).1.trans sourceBest
      rcases relaxed.label (net.target edge) with ⟨same, _⟩ | improved
      · exact ⟨known, reached, sourceKept, same.trans targetBest, atMost⟩
      · obtain ⟨taken, _, _, _, newBest, improves⟩ := improved
        have isLess := improves reached targetBest
        exact ⟨known, _, sourceKept, newBest, by linarith⟩
  case within =>
    intro other isSettled known best chain isChain
    rw [(keeps isSettled).1] at best
    rw [departed_cons place settled, Nat.cast_add, add_mul]
    rcases List.mem_cons.mp isSettled with rfl | earlier
    · cases best.symm.trans isLeast.best
      have bound := sound.least_le nonneg tolerance_nonneg isLeast isChain
      linarith
    · have bound := sound.within other earlier known best chain isChain
      have share_nonneg : 0 ≤ (departed net [place] : K) * tolerance :=
        mul_nonneg (Nat.cast_nonneg _) tolerance_nonneg
      linarith

end

end

section

variable {origin : Place} {labels : Labels Place Edge K} {settled : List Place}

omit [IsStrictOrderedRing K] in
theorem sound_initial (best : labels.best = Function.update (fun _ => none) origin (some 0))
    (via : labels.via = fun _ => none) : Sound net tolerance origin labels [] := by
  have isOrigin {place : Place} {cost : K} (isBest : labels.best place = some cost) :
      place = origin ∧ cost = 0 := by
    by_cases same : place = origin
    · subst same
      rw [best, Function.update_self] at isBest
      exact ⟨rfl, (Option.some.inj isBest).symm⟩
    · rw [best, Function.update_of_ne same] at isBest
      cases isBest
  constructor
  case origin_best => rw [best, Function.update_self]
  case origin_via => rw [via]
  case best_nonneg => exact fun place cost isBest => (isOrigin isBest).2.ge
  case nodup => exact List.nodup_nil
  case traced =>
    intro place edge isVia
    rw [via] at isVia
    cases isVia
  case labelled => exact fun place cost isBest differs => absurd (isOrigin isBest).1 differs
  case settled_best => exact nofun
  case ordered => exact nofun
  case relaxed => exact nofun
  case within => exact nofun

omit [IsStrictOrderedRing K] in
theorem Sound.settled_of_chain (sound : Sound net tolerance origin labels settled)
    (none_left : ∀ place ∉ settled, labels.best place = none) {chain : List Edge} {place : Place}
    (isChain : net.Chain origin chain place) : place ∈ settled := by
  have originSettled : origin ∈ settled := by
    by_contra unsettled
    have isNone := none_left origin unsettled
    rw [sound.origin_best] at isNone
    cases isNone
  by_contra unsettled
  obtain ⟨_, exit, _, _, _, isExit, isSettled, leaves⟩ :=
    isChain.exists_exit originSettled unsettled
  obtain ⟨_, _, _, targetBest, _⟩ := sound.relaxed exit isExit isSettled
  have isNone := none_left _ leaves
  rw [targetBest] at isNone
  cases isNone

/-- The edges by which places were reached, from the origin to a place. -/
inductive Trace
    (net : Network Place Edge K)
    (via : Place → Option Edge)
    (origin : Place) : List Edge → Place → Prop
  | start : Trace net via origin [] origin
  | extend {chain : List Edge} {place : Place} {edge : Edge} (differs : place ≠ origin)
      (isVia : via place = some edge)
      (isTrace : Trace net via origin chain (net.source edge)) :
      Trace net via origin (chain ++ [edge]) place

def lower (labels : Labels Place Edge K) (settled : List Place) (cost : K) : Finset Place :=
  settled.toFinset.filter fun place => (labels.best place).any (· < cost)

omit [Field K] [IsStrictOrderedRing K] in
theorem mem_lower {cost : K} {place : Place} : place ∈ lower labels settled cost ↔
      place ∈ settled ∧ ∃ known, labels.best place = some known ∧ known < cost := by
  simp only [lower, Finset.mem_filter, List.mem_toFinset, Option.any_eq_true, decide_eq_true_eq]

variable (pos : ∀ edge, 0 < net.weight edge) (sound : Sound net tolerance origin labels settled)

include pos sound

theorem Sound.exists_trace {place : Place} {cost : K} (best : labels.best place = some cost) :
    ∃ chain, Trace net labels.via origin chain place := by
  induction size : (lower labels settled cost).card using Nat.strong_induction_on
    generalizing place cost with
  | _ count ih =>
    by_cases isOrigin : place = origin
    · subst isOrigin
      exact ⟨[], .start⟩
    · obtain ⟨edge, isVia⟩ := sound.labelled place cost best isOrigin
      obtain ⟨_, _, isSettled, known, sourceBest, isBest⟩ := sound.traced place edge isVia
      cases isBest.symm.trans best
      have isLess : known < known + net.weight edge := lt_add_of_pos_right _ (pos edge)
      have fewer : (lower labels settled known).card < count := by
        rw [← size]
        apply Finset.card_lt_card
        apply (Finset.ssubset_iff_of_subset ?_).mpr
        · refine ⟨net.source edge, mem_lower.mpr ⟨isSettled, known, sourceBest, isLess⟩,
            fun isLower => ?_⟩
          obtain ⟨_, other, otherBest, below⟩ := mem_lower.mp isLower
          cases sourceBest.symm.trans otherBest
          exact lt_irrefl _ below
        · intro other isLower
          obtain ⟨otherSettled, label, otherBest, below⟩ := mem_lower.mp isLower
          exact mem_lower.mpr ⟨otherSettled, label, otherBest, below.trans isLess⟩
      obtain ⟨chain, isTrace⟩ := ih _ fewer sourceBest rfl
      exact ⟨chain ++ [edge], .extend isOrigin isVia isTrace⟩

theorem Sound.trace_spec {chain : List Edge} {place : Place}
    (isTrace : Trace net labels.via origin chain place) :
    net.Chain origin chain place ∧ labels.best place = some (net.cost chain) ∧
      (∀ edge ∈ chain, edge ∈ net.edges ∧ ∃ known, labels.best (net.source edge) = some known ∧
          known < net.cost chain) ∧ (chain.map net.source).Nodup := by
  induction isTrace with
  | start =>
    exact ⟨rfl, sound.origin_best, nofun,
      List.nodup_nil⟩
  | @extend chain place edge differs isVia isTrace ih =>
    obtain ⟨isChain, chainBest, starts, nodup⟩ := ih
    obtain ⟨isEdge, rfl, _, known, sourceBest, best⟩ := sound.traced place edge isVia
    cases chainBest.symm.trans sourceBest
    have isLess : net.cost chain < net.cost (chain ++ [edge]) := by
      rw [Network.cost_append, Network.cost_cons, Network.cost_nil, add_zero]
      exact lt_add_of_pos_right _ (pos edge)
    refine ⟨?_, ?_, ?_, ?_⟩
    · exact Network.chain_append.mpr ⟨_, isChain, isEdge, rfl, rfl⟩
    · rw [Network.cost_append, Network.cost_cons, Network.cost_nil, add_zero, best]
    · intro other isOther
      rcases List.mem_append.mp isOther with isEarlier | isLast
      · obtain ⟨otherEdge, label, otherBest, below⟩ := starts other isEarlier
        exact ⟨otherEdge, label, otherBest, below.trans isLess⟩
      · obtain rfl := List.mem_singleton.mp isLast
        exact ⟨isEdge, _, sourceBest, isLess⟩
    · rw [List.map_append, List.map_singleton]
      apply nodup.append (List.nodup_singleton _)
      rw [List.disjoint_singleton]
      intro isEarlier
      obtain ⟨other, isOther, same⟩ := List.mem_map.mp isEarlier
      obtain ⟨_, label, otherBest, below⟩ := starts other isOther
      rw [same, sourceBest] at otherBest
      cases otherBest
      exact lt_irrefl _ below

end

end LabelSetting
