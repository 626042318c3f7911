import UrbanFlow.Networks.ShortestPath
import UrbanFlow.Library.LabelSetting

/-!
# What the route search finds

The search settles the nodes in the order of their labels: the heap has the label of
every node that is not done, so what it gives first is the least of them. The links
by which nodes were reached lead back to the origin.
-/

namespace UrbanFlow.Networks

open LabelSetting Search

/-- The links of a graph, weighted by their seconds and penalties. -/
def RoadGraph.network (graph : RoadGraph) (penalty : String → ℚ) : Network String GraphLink ℚ where
  edges := graph.links
  source := GraphLink.from_
  target := GraphLink.to_
  weight := fun link => freeFlowSeconds link + penalty link.id

theorem costTolerance_pos : 0 < costTolerance := by
  rw [costTolerance]
  positivity

/-- The fold of `popLeast` gives a member of the least cost. -/
theorem fold_least (entry : ℚ × String) (rest : List (ℚ × String)) :
    let least := rest.foldl (fun best other => if entryLE best other then best else other) entry
    least ∈ entry :: rest ∧ ∀ other ∈ entry :: rest, least.1 ≤ other.1 := by
  induction rest generalizing entry with
  | nil => simp
  | cons next _ ih =>
    by_cases isLE : entryLE entry next
    · have first : entry.1 ≤ next.1 := by
        rcases of_decide_eq_true isLE with isLess | ⟨same, _⟩
        · exact isLess.le
        · exact same.le
      obtain ⟨isMember, isLeast⟩ := ih entry
      simp only [List.foldl_cons, if_pos isLE]
      refine ⟨?_, ?_⟩
      · rcases List.mem_cons.mp isMember with same | isLater
        · rw [same]
          exact List.mem_cons_self
        · exact List.mem_cons_of_mem _ (List.mem_cons_of_mem _ isLater)
      · rintro other (_ | ⟨_, _ | ⟨_, isLater⟩⟩)
        · exact isLeast entry List.mem_cons_self
        · exact (isLeast entry List.mem_cons_self).trans first
        · exact isLeast other (List.mem_cons_of_mem _ isLater)
    · have second : next.1 ≤ entry.1 := by
        rw [entryLE, decide_eq_true_eq, not_or] at isLE
        exact not_lt.mp isLE.1
      obtain ⟨isMember, isLeast⟩ := ih next
      simp only [List.foldl_cons, if_neg isLE]
      refine ⟨List.mem_cons_of_mem _ isMember, ?_⟩
      rintro other (_ | ⟨_, isLater⟩)
      · exact (isLeast next List.mem_cons_self).trans second
      · exact isLeast other isLater

/-- `heappop` gives an entry of the least cost and leaves the others. -/
theorem popLeast_spec {heap rest : List (ℚ × String)} {entry : ℚ × String}
    (isPop : popLeast heap = some (entry, rest)) :
    entry ∈ heap ∧ rest = heap.erase entry ∧ ∀ other ∈ heap, entry.1 ≤ other.1 := by
  cases heap with
  | nil => cases isPop
  | cons first others =>
    obtain ⟨rfl, rfl⟩ := Prod.mk.inj (Option.some.inj isPop)
    obtain ⟨isMember, isLeast⟩ := fold_least first others
    exact ⟨isMember, rfl, isLeast⟩

theorem popLeast_none {heap : List (ℚ × String)} (isNone : popLeast heap = none) : heap = [] := by
  cases heap with
  | nil => rfl
  | cons => cases isNone

namespace Search

def labels (search : Search) : Labels String GraphLink ℚ where
  best := search.best
  via := search.via

/-- The heap has the label of every node that is not done, and no entry below a
label. -/
structure HeapHolds (search : Search) : Prop where
  known (entry : ℚ × String) (isEntry : entry ∈ search.heap) :
    ∃ cost, search.best entry.2 = some cost ∧ cost ≤ entry.1
  pending (node : String) (notDone : node ∉ search.done)
    (cost : ℚ) (best : search.best node = some cost) :
    (cost, node) ∈ search.heap

variable {penalty : String → ℚ} {cost : ℚ}

theorem improves_iff {step : ℚ} {known : Option ℚ} :
    improves step known = true ↔ Improves costTolerance step known := by
  cases known with
  | none | some cost => simp [improves, Improves]

theorem relax_labels (graph : RoadGraph) (search : Search) (link : GraphLink) :
    (search.relax penalty cost link).labels =
      LabelSetting.relax (graph.network penalty) costTolerance cost search.labels link := by
  have sameStep : cost + (graph.network penalty).weight link =
      cost + freeFlowSeconds link + penalty link.id := (add_assoc _ _ _).symm
  have same : Improves costTolerance (cost + (graph.network penalty).weight link)
        (search.labels.best ((graph.network penalty).target link)) ↔
      improves (cost + freeFlowSeconds link + penalty link.id) (search.best link.to_) = true := by
    rw [sameStep, improves_iff]
    exact Iff.rfl
  by_cases better : improves (cost + freeFlowSeconds link + penalty link.id)
      (search.best link.to_) = true
  · simp only [relax, LabelSetting.relax, if_pos better, if_pos (same.mpr better)]
    rw [sameStep]
    rfl
  · simp only [relax, LabelSetting.relax, if_neg better, if_neg (mt same.mp better)]

theorem relax_done (search : Search) (link : GraphLink) :
    (search.relax penalty cost link).done = search.done := by
  simp only [relax]
  split <;> rfl

theorem HeapHolds.relax {search : Search} (holds : HeapHolds search) (link : GraphLink) :
    HeapHolds (search.relax penalty cost link) := by
  simp only [Search.relax]
  split
  · rename_i better
    have improved := improves_iff.mp better
    constructor
    · intro entry isEntry
      by_cases isTarget : entry.2 = link.to_
      · simp only [isTarget, Function.update_self]
        refine ⟨_, rfl, ?_⟩
        rcases List.mem_cons.mp isEntry with rfl | isOld
        · exact le_rfl
        · obtain ⟨known, best, atMost⟩ := holds.known entry isOld
          have isLess := improved known (isTarget ▸ best)
          linarith [costTolerance_pos]
      · simp only [Function.update_of_ne isTarget]
        rcases List.mem_cons.mp isEntry with rfl | isOld
        · exact absurd rfl isTarget
        · exact holds.known entry isOld
    · intro node notDone known best
      by_cases isTarget : node = link.to_
      · subst isTarget
        simp only [Function.update_self, Option.some.injEq] at best
        rw [← best]
        exact List.mem_cons_self
      · simp only [Function.update_of_ne isTarget] at best
        exact List.mem_cons_of_mem _ (holds.pending node notDone known best)
  · exact holds

theorem fold_relax (graph : RoadGraph) (penalty : String → ℚ) (cost : ℚ) (links : List GraphLink)
    {search : Search} (holds : HeapHolds search) :
    (links.foldl (relax penalty cost) search).labels =
        links.foldl (LabelSetting.relax (graph.network penalty) costTolerance cost) search.labels ∧
      (links.foldl (relax penalty cost) search).done = search.done ∧
      HeapHolds (links.foldl (relax penalty cost) search) ∧
      (links.foldl (relax penalty cost) search).heap.length ≤
        search.heap.length + links.length := by
  induction links generalizing search with
  | nil => exact ⟨rfl, rfl, holds, le_rfl⟩
  | cons link _ ih =>
    obtain ⟨sameLabels, sameDone, stillHolds, atMost⟩ := ih (holds.relax link)
    have onePush : (search.relax penalty cost link).heap.length ≤ search.heap.length + 1 := by
      simp only [relax]
      split
      · exact le_rfl
      · exact Nat.le_succ _
    rw [relax_labels graph] at sameLabels
    refine ⟨sameLabels, sameDone.trans (relax_done _ _), stillHolds, ?_⟩
    rw [List.length_cons]
    exact atMost.trans (by omega)

/-- What holds between two rounds. -/
structure Inv (graph : RoadGraph) (penalty : String → ℚ) (origin : String)
    (search : Search) : Prop where
  sound : Sound (graph.network penalty) costTolerance origin search.labels search.done
  holds : HeapHolds search

/-- What a search has come to when it ends: no label is left to settle, or the
destination has the least one. -/
def Finished (graph : RoadGraph) (penalty : String → ℚ) (origin destination : String)
    (search : Search) : Prop :=
  ∃ settled, destination ∉ settled ∧
    Sound (graph.network penalty) costTolerance origin search.labels settled ∧
    ((∀ node ∉ settled, search.best node = none) ∨
      ∃ cost, Least search.labels settled destination cost)

/-- The entries of the heap, and the links that may still add one. -/
def work (graph : RoadGraph) (search : Search) : Nat :=
  search.heap.length + (graph.links.filter fun link => link.from_ ∉ search.done).length

variable {graph : RoadGraph}

theorem inv_initial (origin : String) : Inv graph penalty origin (initial origin) := by
  constructor
  · exact sound_initial rfl rfl
  · constructor
    · rintro entry isEntry
      obtain rfl := List.mem_singleton.mp isEntry
      refine ⟨0, ?_, le_rfl⟩
      simp only [initial, Function.update_self]
    · intro node _ cost best
      by_cases isOrigin : node = origin
      · subst isOrigin
        simp only [initial, Function.update_self, Option.some.injEq] at best
        rw [← best]
        exact List.mem_cons_self
      · simp only [initial, Function.update_of_ne isOrigin] at best
        cases best

section

variable {origin destination : String} {search : Search} (nonneg : ∀ id, 0 ≤ penalty id)

section

variable (inv : Inv graph penalty origin search) {rest : List (ℚ × String)}

include inv

theorem Inv.least {cost : ℚ} {node : String}
    (isPop : popLeast search.heap = some ((cost, node), rest)) (notDone : node ∉ search.done) :
    Least search.labels search.done node cost := by
  obtain ⟨isEntry, _, isLeast⟩ := popLeast_spec isPop
  obtain ⟨label, best, atMost⟩ := inv.holds.known _ isEntry
  have atLeast := isLeast _ (inv.holds.pending node notDone label best)
  obtain rfl : label = cost := le_antisymm atMost atLeast
  exact ⟨notDone, best, fun other otherNotDone later otherBest =>
    isLeast _ (inv.holds.pending other otherNotDone later otherBest)⟩

theorem Inv.skip {entry : ℚ × String} (isPop : popLeast search.heap = some (entry, rest))
    (done : List String) (isDone : entry.2 ∈ done) (mono : ∀ node ∈ search.done, node ∈ done) :
    HeapHolds { search with heap := rest, done := done } := by
  obtain ⟨_, rfl, _⟩ := popLeast_spec isPop
  constructor
  · exact fun other isOther => inv.holds.known other (List.mem_of_mem_erase isOther)
  · intro node notDone cost best
    have isPending := inv.holds.pending node (fun earlier => notDone (mono node earlier)) cost best
    apply (List.mem_erase_of_ne ?_).mpr isPending
    rintro rfl
    exact notDone isDone

end

include nonneg

omit nonneg in
theorem length_filter_notDone {node : String} {done : List String} (notDone : node ∉ done) :
    (graph.links.filter fun link => link.from_ ∉ node :: done).length +
        (graph.outgoing node).length =
      (graph.links.filter fun link => link.from_ ∉ done).length := by
  have sameLength : (graph.outgoing node).length =
      (graph.links.filter fun link => link.from_ = node).length :=
    ((List.perm_insertionSort _ _).filter _).length_eq
  rw [sameLength]
  induction graph.links with
  | nil => rfl
  | cons link _ ih =>
    simp only [List.mem_cons, not_or, List.filter_cons, decide_eq_true_eq] at ih ⊢
    by_cases leaves : link.from_ = node
    · simp only [leaves, notDone, not_true_eq_false, false_and, if_false, if_true,
        not_false_eq_true, List.length_cons]
      omega
    · by_cases isDone : link.from_ ∈ done
      · simp only [leaves, isDone, not_true_eq_false, and_false, if_false]
        omega
      · simp only [leaves, isDone, not_false_eq_true, and_self, if_true, if_false, List.length_cons]
        omega

section

variable (inv : Inv graph penalty origin search)

include inv

theorem Inv.settle {rest : List (ℚ × String)} {cost : ℚ}
    {node : String} (isPop : popLeast search.heap = some ((cost, node), rest))
    (notDone : node ∉ search.done) :
    let after := (graph.outgoing node).foldl (relax penalty cost)
      { search with heap := rest, done := node :: search.done }
    Inv graph penalty origin after ∧ after.done = node :: search.done ∧
      work graph after < work graph search := by
  intro after
  have isLeast := inv.least isPop notDone
  have marked := inv.skip isPop (node :: search.done) List.mem_cons_self
    fun _ => List.mem_cons_of_mem node
  obtain ⟨sameLabels, sameDone, holds, atMost⟩ :=
    fold_relax graph penalty cost (graph.outgoing node) marked
  have weight_nonneg (link : GraphLink) : 0 ≤ (graph.network penalty).weight link :=
    add_nonneg (freeFlowSeconds_pos link).le (nonneg link.id)
  refine ⟨⟨?_, holds⟩, sameDone, ?_⟩
  · rw [sameLabels, sameDone]
    apply inv.sound.settle weight_nonneg costTolerance_pos.le isLeast
    · exact fun link => RoadGraph.mem_outgoing
    · exact relaxed_all costTolerance_pos.le _ _
  · -- the entry taken makes up for the links that may each have added one
    obtain ⟨isEntry, isRest, _⟩ := popLeast_spec isPop
    have shorter : rest.length + 1 = search.heap.length := by
      rw [isRest, List.length_erase_of_mem isEntry]
      exact Nat.sub_add_cancel (List.length_pos_of_mem isEntry)
    have split := @length_filter_notDone graph node search.done notDone
    simp only [work, after, sameDone]
    simp only at atMost
    omega

theorem Inv.round (notReached : destination ∉ search.done)
    {after : Search} {ended : Bool}
    (isRound : search.round graph penalty destination = (after, ended)) :
    (ended = true ∧ Finished graph penalty origin destination after) ∨
      (ended = false ∧ Inv graph penalty origin after ∧ destination ∉ after.done ∧
        work graph after < work graph search) := by
  simp only [Search.round] at isRound
  cases isPop : popLeast search.heap with
  | none =>
    rw [isPop] at isRound
    obtain ⟨rfl, rfl⟩ := Prod.mk.inj isRound
    refine Or.inl ⟨rfl, search.done, notReached, inv.sound, Or.inl ?_⟩
    intro node notDone
    rw [Option.eq_none_iff_forall_ne_some]
    intro cost best
    have isPending := inv.holds.pending node notDone cost best
    rw [popLeast_none isPop] at isPending
    exact List.not_mem_nil isPending
  | some popped =>
    obtain ⟨⟨cost, _⟩, _⟩ := popped
    simp only [isPop] at isRound
    split at isRound
    · rename_i isDone
      obtain ⟨rfl, rfl⟩ := Prod.mk.inj isRound
      refine Or.inr ⟨rfl, ⟨inv.sound, inv.skip isPop search.done isDone fun _ => id⟩,
        notReached, ?_⟩
      obtain ⟨isEntry, isRest, _⟩ := popLeast_spec isPop
      apply Nat.add_lt_add_right
      rw [isRest, List.length_erase_of_mem isEntry]
      exact Nat.sub_lt (List.length_pos_of_mem isEntry) Nat.one_pos
    · rename_i notDone
      split at isRound
      · rename_i isDestination
        obtain ⟨rfl, rfl⟩ := Prod.mk.inj isRound
        subst isDestination
        exact Or.inl ⟨rfl, search.done, notReached, inv.sound,
          Or.inr ⟨cost, inv.least isPop notDone⟩⟩
      · rename_i isOther
        obtain ⟨rfl, rfl⟩ := Prod.mk.inj isRound
        obtain ⟨settled, done, lessWork⟩ := inv.settle nonneg isPop notDone
        refine Or.inr ⟨rfl, settled, ?_, lessWork⟩
        rw [done, List.mem_cons, not_or]
        exact ⟨fun same => isOther same.symm, notReached⟩

theorem Inv.run {rounds : Nat}
    (notReached : destination ∉ search.done) (suffices_ : work graph search < rounds) :
    Finished graph penalty origin destination
      (run graph penalty destination rounds search) := by
  induction rounds generalizing search with
  | zero => exact absurd suffices_ (Nat.not_lt_zero _)
  | succ _ ih =>
    simp only [run]
    rcases isRound : search.round graph penalty destination with ⟨_, _⟩
    rcases inv.round nonneg notReached isRound with
      ⟨rfl, finished⟩ | ⟨rfl, stillInv, stillNot, less⟩
    · exact finished
    · exact ih stillInv stillNot (by omega)

end

/-- The search of `shortest_path` ends. -/
theorem searchFrom_finished : Finished graph penalty origin destination
      (searchFrom graph origin destination penalty) := by
  apply (inv_initial origin).run nonneg List.not_mem_nil
  apply Nat.lt_of_le_of_lt (Nat.add_le_add_left (List.length_filter_le _ _) _)
  simp only [initial, List.length_singleton]
  omega

end

end Search

variable {graph : RoadGraph} {penalty : String → ℚ} {origin destination : String}

theorem mem_outKeys {node : String} : node ∈ graph.outKeys ↔
      node ∈ graph.nodes.map GraphNode.id ∨ node ∈ graph.links.map GraphLink.from_ := by
  rw [RoadGraph.outKeys, List.mem_dedup, List.mem_append]

theorem from_mem_outKeys {link : GraphLink} (isLink : link ∈ graph.links) :
    link.from_ ∈ graph.outKeys :=
  mem_outKeys.mpr (Or.inr (List.mem_map_of_mem isLink))

theorem walkBack_trace {via : String → Option GraphLink} {chain : List GraphLink} {node : String}
    (isTrace : Trace (graph.network penalty) via origin chain node) {steps : Nat}
    (suffices_ : chain.length < steps) :
    walkBack via origin steps node = some (chain.map GraphLink.id) := by
  induction isTrace generalizing steps with
  | start =>
    obtain ⟨steps, rfl⟩ := Nat.exists_eq_add_one_of_ne_zero (Nat.ne_of_gt suffices_)
    simp only [walkBack, if_true, List.map_nil]
  | @extend chain node link differs isVia _ ih =>
    obtain ⟨steps, rfl⟩ := Nat.exists_eq_add_one_of_ne_zero (Nat.ne_zero_of_lt suffices_)
    rw [List.length_append, List.length_singleton] at suffices_
    have isRest : walkBack via origin steps link.from_ = some (chain.map GraphLink.id) :=
      ih (by omega)
    simp only [walkBack, if_neg differs, isVia, isRest, List.map_append,
      List.map_singleton, Option.bind_eq_bind, Option.bind_some]

section

variable (nonneg : ∀ id, 0 ≤ penalty id) (differs : origin ≠ destination)

include nonneg differs

/-- The search finds a path to a node that it has reached, within the tolerances of
every chain to it; a node that it has not reached has no chain to it. -/
theorem foundPath_spec : ((searchFrom graph origin destination penalty).via destination = none ∧
        ¬ ∃ chain, (graph.network penalty).Chain origin chain destination) ∨
      ((searchFrom graph origin destination penalty).via destination ≠ none ∧
        ∃ chain, foundPath graph origin destination penalty = some (chain.map GraphLink.id) ∧
          (graph.network penalty).Chain origin chain destination ∧ chain.Nodup ∧
          (∀ link ∈ chain, link.from_ ≠ destination) ∧
          ∀ other, (graph.network penalty).Chain origin other destination →
            (graph.network penalty).cost chain ≤
              (graph.network penalty).cost other + graph.outKeys.length * costTolerance) := by
  have weight_pos (link : GraphLink) : 0 < (graph.network penalty).weight link :=
    add_pos_of_pos_of_nonneg (freeFlowSeconds_pos link) (nonneg link.id)
  obtain ⟨settled, notSettled, sound, noneLeft | ⟨cost, isLeast⟩⟩ :=
    @searchFrom_finished penalty graph origin destination nonneg
  · refine Or.inl ⟨?_, ?_⟩
    · rw [Option.eq_none_iff_forall_ne_some]
      intro link isVia
      obtain ⟨_, _, _, label, _, best⟩ := sound.traced destination link isVia
      have isNone := noneLeft destination notSettled
      exact absurd (best.symm.trans isNone) (Option.some_ne_none _)
    · rintro ⟨chain, isChain⟩
      exact notSettled (sound.settled_of_chain noneLeft isChain)
  · refine Or.inr ⟨?_, ?_⟩
    · obtain ⟨link, isVia⟩ := sound.labelled destination cost isLeast.best differs.symm
      intro isNone
      exact absurd (isVia.symm.trans isNone) (Option.some_ne_none _)
    · obtain ⟨chain, isTrace⟩ := sound.exists_trace weight_pos isLeast.best
      obtain ⟨isChain, best, starts, nodup⟩ := sound.trace_spec weight_pos isTrace
      have short : chain.length ≤ graph.outKeys.length := by
        rw [← List.length_map]
        apply (nodup.subperm _).length_le
        intro node isSource
        obtain ⟨link, isLink, rfl⟩ := List.mem_map.mp isSource
        exact from_mem_outKeys (starts link isLink).1
      refine ⟨chain, walkBack_trace isTrace (Nat.lt_succ_of_le short), isChain,
        nodup.of_map _, fun link isLink leads => ?_, fun other isOther => ?_⟩
      · -- the label of where a link on the path starts is lower than that of its end
        obtain ⟨_, label, sourceBest, below⟩ := starts link isLink
        have isSource : (graph.network penalty).source link = destination := leads
        rw [isSource, best] at sourceBest
        exact below.ne' (Option.some.inj sourceBest)
      cases isLeast.best.symm.trans best
      have bound := sound.least_le (fun link => (weight_pos link).le)
        costTolerance_pos.le isLeast isOther
      have few : departed (graph.network penalty) settled ≤ graph.outKeys.length :=
        departed_le sound.nodup fun link isLink => from_mem_outKeys isLink
      have share := mul_le_mul_of_nonneg_right (Nat.cast_le.mpr few : (departed (graph.network penalty) settled : ℚ) ≤ _)
        costTolerance_pos.le
      linarith

theorem shortestPath_chain {path : List String}
    (isPath : shortestPath graph origin destination penalty = some path) :
    ∃ chain, path = chain.map GraphLink.id ∧
      (graph.network penalty).Chain origin chain destination ∧ chain.Nodup ∧
      (∀ link ∈ chain, link.from_ ≠ destination) ∧
      ∀ other, (graph.network penalty).Chain origin other destination →
        (graph.network penalty).cost chain ≤
          (graph.network penalty).cost other + graph.outKeys.length * costTolerance := by
  simp only [shortestPath, if_neg differs] at isPath
  split at isPath
  · cases isPath
  · split at isPath
    · cases isPath
    · rename_i isVia
      rcases foundPath_spec nonneg differs with ⟨isNone, _⟩ | ⟨_, chain, isFound, rest⟩
      · exact absurd (isVia.symm.trans isNone) (Option.some_ne_none _)
      · exact ⟨chain, Option.some.inj (isPath.symm.trans isFound), rest⟩

end

/-- `shortest_path` on every graph. -/
theorem shortestPath_within (graph : RoadGraph) (origin destination : String)
    (penalty : String → ℚ) (nonneg : ∀ id, 0 ≤ penalty id) :
    (shortestPath graph origin destination penalty = none ↔
        origin ∉ graph.outKeys ∨ destination ∉ graph.outKeys ∨
          ¬ ∃ chain, (graph.network penalty).Chain origin chain destination) ∧
      (shortestPath graph origin destination penalty = some [] ↔
        origin ∈ graph.outKeys ∧ origin = destination) ∧
      (∀ path, origin ≠ destination → shortestPath graph origin destination penalty = some path →
        ∃ chain, path = chain.map GraphLink.id ∧
          (graph.network penalty).Chain origin chain destination ∧ chain.Nodup ∧
          ∀ other, (graph.network penalty).Chain origin other destination →
            (graph.network penalty).cost chain ≤ (graph.network penalty).cost other +
                graph.outKeys.length * costTolerance) ∧
      (origin ≠ destination → (searchFrom graph origin destination penalty).via destination ≠ none →
        foundPath graph origin destination penalty ≠ none) := by
  refine ⟨?_, ?_, ?_, ?_⟩
  · by_cases unknown : origin ∉ graph.outKeys ∨ destination ∉ graph.outKeys
    · rw [shortestPath, if_pos unknown]
      exact iff_of_true rfl (or_assoc.mp (Or.inl unknown))
    · rw [shortestPath, if_neg unknown, ← or_assoc, or_iff_right unknown]
      by_cases same : origin = destination
      · rw [if_pos same]
        exact iff_of_false (Option.some_ne_none _) (not_not_intro ⟨[], same⟩)
      · rw [if_neg same]
        rcases foundPath_spec nonneg same with ⟨isNone, noChain⟩ | ⟨isSome, found⟩
        · rw [isNone]
          exact iff_of_true rfl noChain
        · obtain ⟨link, isVia⟩ := Option.ne_none_iff_exists'.mp isSome
          obtain ⟨chain, isPath, isChain, _⟩ := found
          rw [isVia, isPath]
          exact iff_of_false (Option.some_ne_none _) (not_not_intro ⟨chain, isChain⟩)
  · constructor
    · intro isEmpty
      by_cases unknown : origin ∉ graph.outKeys ∨ destination ∉ graph.outKeys
      · rw [shortestPath, if_pos unknown] at isEmpty
        cases isEmpty
      · refine ⟨not_not.mp (not_or.mp unknown).1, ?_⟩
        by_contra differs
        obtain ⟨chain, isPath, isChain, _⟩ := shortestPath_chain nonneg differs isEmpty
        obtain rfl : chain = [] := List.map_eq_nil_iff.mp isPath.symm
        exact differs isChain
    · rintro ⟨known, rfl⟩
      rw [shortestPath, if_neg (not_or.mpr ⟨not_not_intro known, not_not_intro known⟩), if_pos rfl]
  · intro path differs isPath
    obtain ⟨chain, areIds, isChain, nodup, _, bound⟩ := shortestPath_chain nonneg differs isPath
    exact ⟨chain, areIds, isChain, nodup, bound⟩
  · intro differs isSome
    rcases foundPath_spec nonneg differs with ⟨isNone, _⟩ | ⟨_, chain, isPath, _⟩
    · exact absurd isNone isSome
    · rw [isPath]
      exact Option.some_ne_none _

def metreLink (id start finish : String) (more : ℚ) (nonneg : 0 ≤ more) : GraphLink where
  id := id
  from_ := start
  to_ := finish
  length := 1 + more
  lanes := 1
  speed := 1
  length_pos := add_pos_of_pos_of_nonneg one_pos nonneg
  lanes_pos := singleLane_pos
  speed_pos := unit_pos

/-- Two links in a row. -/
def chainGraph : RoadGraph where
  nodes := [{ id := "a", x := 0, y := 0 }, { id := "b", x := 1, y := 0 },
    { id := "c", x := 2, y := 0 }]
  links := [metreLink "ab" "a" "b" 0 nothing_nonneg, metreLink "bc" "b" "c" 0 nothing_nonneg]

theorem shortestPath_within_chain : ∃ chain, ["ab", "bc"] = chain.map GraphLink.id ∧
      (chainGraph.network noPenalty).Chain "a" chain "c" ∧ chain.Nodup ∧
      ∀ other, (chainGraph.network noPenalty).Chain "a" other "c" →
        (chainGraph.network noPenalty).cost chain ≤ (chainGraph.network noPenalty).cost other +
            chainGraph.outKeys.length * costTolerance :=
  (shortestPath_within chainGraph "a" "c" noPenalty fun _ => le_rfl).2.2.1
    ["ab", "bc"] (by decide) (by decide +kernel)

/-- A length that the tolerance does not tell. -/
def excess : ℚ := 9 / 10 ^ 13

theorem excess_nonneg : 0 ≤ excess := by
  rw [excess]
  positivity

/-- Two links of the same ends, the longer one first in the order of their ids. -/
def linkPair (start finish : String) : List GraphLink :=
  [metreLink (start ++ "1") start finish excess excess_nonneg,
    metreLink (start ++ "2") start finish 0 nothing_nonneg]

/-- A link that starts where no node is. -/
def strayGraph : RoadGraph where
  nodes := [{ id := "d", x := 0, y := 0 }]
  links := [metreLink "stray" "x" "d" 0 nothing_nonneg]

/-- Two nodes, and pairs of links from one to the other through places that are no
nodes. -/
def pairedGraph : RoadGraph where
  nodes := [{ id := "o", x := 0, y := 0 }, { id := "d", x := 4, y := 0 }]
  links := linkPair "o" "a" ++ linkPair "a" "b" ++ linkPair "b" "c" ++ linkPair "c" "d"

/-- A path may start where no node is, and places that are no nodes count for the
tolerance. -/
theorem shortestPath_beyond_nodes : ("x" ∉ strayGraph.nodes.map GraphNode.id ∧
      shortestPath strayGraph "x" "d" noPenalty = some ["stray"]) ∧
    ∃ chain other, shortestPath pairedGraph "o" "d" noPenalty = some (chain.map GraphLink.id) ∧
        (pairedGraph.network noPenalty).Chain "o" chain "d" ∧
        (pairedGraph.network noPenalty).Chain "o" other "d" ∧ other.Nodup ∧
        (pairedGraph.network noPenalty).cost other + pairedGraph.nodes.length * costTolerance <
          (pairedGraph.network noPenalty).cost chain := by
  refine ⟨⟨by decide, by decide⟩, [("o", "a"), ("a", "b"), ("b", "c"), ("c", "d")].map fun step =>
      metreLink (step.1 ++ "1") step.1 step.2 excess excess_nonneg,
    [("o", "a"), ("a", "b"), ("b", "c"), ("c", "d")].map fun step =>
      metreLink (step.1 ++ "2") step.1 step.2 0 le_rfl, ?_, ?_, ?_, ?_, ?_⟩
  · decide +kernel
  · exact ⟨by decide +kernel, rfl, by decide +kernel, rfl, by decide +kernel, rfl,
      by decide +kernel, rfl, rfl⟩
  · exact ⟨by decide +kernel, rfl, by decide +kernel, rfl, by decide +kernel, rfl,
      by decide +kernel, rfl, rfl⟩
  · decide
  · decide +kernel

end UrbanFlow.Networks
