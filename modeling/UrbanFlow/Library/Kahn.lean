import Mathlib.Data.List.Sort
import Mathlib.Data.List.Perm.Subperm

/-!
# Kahn's algorithm

A directed graph is ordered by taking out, again and again, the least node that
no remaining node leads to. The order it returns has every node once, and every
edge leads forward in it.
-/

namespace Kahn

variable {Node : Type*} [LinearOrder Node]

/-- A directed graph: its nodes and the nodes that each leads to. -/
structure Digraph (Node : Type*) where
  nodes : List Node
  targets : Node → List Node
  nodes_nodup : nodes.Nodup
  targets_nodup : ∀ node, (targets node).Nodup
  targets_mem : ∀ node, ∀ target ∈ targets node, target ∈ nodes

/-- What the algorithm keeps: for each node how many of the remaining nodes lead
to it, the nodes none leads to, and the order so far. -/
structure State (Node : Type*) where
  indegree : Node → Int
  ready : List Node
  order : List Node

/-- A node that led to the target has been taken out. -/
def State.release (state : State Node) (target : Node) : State Node :=
  let remaining := state.indegree target - 1
  { state with
    indegree := Function.update state.indegree target remaining
    ready := if remaining = 0 then state.ready ++ [target] else state.ready }

namespace Digraph

variable (graph : Digraph Node)

/-- Before any node is taken out. -/
def start : State Node :=
  let indegree := fun target => (graph.nodes.countP fun node => target ∈ graph.targets node : Int)
  { indegree := indegree
    ready := (graph.nodes.filter fun node => indegree node = 0).insertionSort (· ≤ ·)
    order := [] }

/-- The first node that is ready is taken out. -/
def step (state : State Node) : State Node := match state.ready with
  | [] => state
  | node :: ready =>
    let released := (graph.targets node).foldl State.release
      { state with ready := ready, order := state.order ++ [node] }
    { released with ready := released.ready.insertionSort (· ≤ ·) }

/-- A number of nodes have been taken out. -/
def after : Nat → State Node
  | 0 => graph.start
  | steps + 1 => graph.step (after steps)

/-- The order, unless the graph has a cycle. -/
def topologicalOrder : Option (List Node) :=
  let final := graph.after graph.nodes.length
  if final.order.length = graph.nodes.length then some final.order else none

end Digraph

theorem foldl_release {targets : List Node} (nodup : targets.Nodup) (state : State Node) :
    targets.foldl State.release state = { state with
        indegree := fun node =>
          if node ∈ targets then state.indegree node - 1 else state.indegree node
        ready := state.ready ++ targets.filter fun node => state.indegree node = 1 } := by
  induction targets generalizing state with
  | nil => simp
  | cons first targets ih =>
    obtain ⟨isNew, nodupLater⟩ := List.nodup_cons.mp nodup
    have others : ∀ node ∈ targets, (state.release first).indegree node = state.indegree node := by
      intro node isLater
      refine Function.update_of_ne ?_ _ _
      rintro rfl
      exact isNew isLater
    have filtered : (targets.filter fun node =>
        (state.release first).indegree node = 1) =
          targets.filter fun node => state.indegree node = 1 := by
      refine List.filter_congr fun node isLater => ?_
      rw [others node isLater]
    rw [List.foldl_cons, ih nodupLater, filtered]
    simp only [State.release, State.mk.injEq, and_true]
    constructor
    · funext node
      by_cases isFirst : node = first
      · subst isFirst
        simp [isNew]
      · by_cases isLater : node ∈ targets <;> simp [isFirst, isLater, Function.update_of_ne]
    · by_cases isLast : state.indegree first = 1
      · simp [isLast]
      · have notZero : ¬ state.indegree first - 1 = 0 := by omega
        simp [isLast, notZero]

/-- What holds of the state of the algorithm. -/
structure Invariant (graph : Digraph Node) (state : State Node) : Prop where
  nodup : (state.order ++ state.ready).Nodup
  mem_nodes : ∀ node ∈ state.order ++ state.ready, node ∈ graph.nodes
  indegree_eq : ∀ target, state.indegree target = (graph.nodes.countP fun node =>
      node ∉ state.order ∧ target ∈ graph.targets node : Int)
  mem_iff : ∀ node ∈ graph.nodes, node ∈ state.order ++ state.ready ↔ state.indegree node = 0
  forward : ∀ node ∈ graph.nodes, ∀ target ∈ graph.targets node,
    target ∈ state.order → [node, target].Sublist state.order

namespace Invariant

variable {graph : Digraph Node} {state : State Node}

/-- It holds before any node is taken out. -/
theorem start : Invariant graph graph.start where
  nodup := by
    rw [Digraph.start, List.nil_append, (List.perm_insertionSort _ _).nodup_iff]
    exact graph.nodes_nodup.filter _
  mem_nodes := by
    intro node isMem
    rw [Digraph.start, List.nil_append, List.mem_insertionSort] at isMem
    exact (List.mem_filter.mp isMem).1
  indegree_eq := by simp [Digraph.start]
  mem_iff := by
    intro node isNode
    simp [Digraph.start, List.mem_insertionSort, isNode]
  forward := by simp [Digraph.start]

theorem mem_order_of_ready (invariant : Invariant graph state) {node target : Node}
    (isNode : node ∈ graph.nodes) (isTarget : target ∈ graph.targets node)
    (isReady : target ∈ state.order ++ state.ready) : node ∈ state.order := by
  have noneLeads := (invariant.mem_iff target (invariant.mem_nodes target isReady)).mp isReady
  rw [invariant.indegree_eq, Int.natCast_eq_zero, List.countP_eq_zero] at noneLeads
  by_contra notTaken
  exact noneLeads node isNode (by simp [notTaken, isTarget])

theorem step_eq {node : Node} {ready : List Node} (isReady : state.ready = node :: ready) :
    graph.step state =
      { indegree := fun target =>
          if target ∈ graph.targets node then state.indegree target - 1
          else state.indegree target
        ready := (ready ++ (graph.targets node).filter fun target =>
          state.indegree target = 1).insertionSort (· ≤ ·)
        order := state.order ++ [node] } := by
  simp only [Digraph.step, isReady, foldl_release (graph.targets_nodup node)]

theorem countP_remaining (graph : Digraph Node) {order : List Node} {node : Node}
    (isNode : node ∈ graph.nodes) (notTaken : node ∉ order) (target : Node) :
    (graph.nodes.countP fun other => other ∉ order ∧ target ∈ graph.targets other) =
      (graph.nodes.countP fun other => other ∉ order ++ [node] ∧ target ∈ graph.targets other) +
        if target ∈ graph.targets node then 1 else 0 := by
  have others : (graph.nodes.erase node).countP (fun other =>
        other ∉ order ∧ target ∈ graph.targets other) =
      (graph.nodes.erase node).countP fun other =>
        other ∉ order ++ [node] ∧ target ∈ graph.targets other := by
    refine List.countP_congr fun other isOther => ?_
    have notNode : other ≠ node := (graph.nodes_nodup.mem_erase_iff.mp isOther).1
    simp [notNode]
  rw [(List.perm_cons_erase isNode).countP_eq, (List.perm_cons_erase isNode).countP_eq,
    List.countP_cons, List.countP_cons, others]
  simp [notTaken]

/-- It holds after a node has been taken out. -/
theorem step (invariant : Invariant graph state) : Invariant graph (graph.step state) := by
  cases isReady : state.ready with
  | nil => rwa [Digraph.step, isReady]
  | cons node ready =>
    have headReady : node ∈ state.order ++ state.ready := by simp [isReady]
    have isNode : node ∈ graph.nodes := invariant.mem_nodes node headReady
    have nodup := invariant.nodup
    rw [isReady] at nodup
    have notTaken : node ∉ state.order := fun isTaken =>
      (List.nodup_append.mp nodup).2.2 node isTaken node List.mem_cons_self rfl
    -- A target of the node was not ready, as the node had not been taken out.
    have targetWaits : ∀ target ∈ graph.targets node,
        target ∉ state.order ++ state.ready := fun target isTarget isTaken =>
      notTaken (invariant.mem_order_of_ready isNode isTarget isTaken)
    have readyPerm : (state.order ++ [node] ++ (ready ++ (graph.targets node).filter fun target =>
          state.indegree target = 1).insertionSort (· ≤ ·)).Perm
        (state.order ++ state.ready ++ (graph.targets node).filter fun target =>
          state.indegree target = 1) := by
      rw [isReady]
      refine ((List.perm_insertionSort _ _).append_left _).trans ?_
      simp
    rw [step_eq isReady]
    exact
      { nodup := by
          refine readyPerm.nodup_iff.mpr (List.nodup_append.mpr
            ⟨invariant.nodup, (graph.targets_nodup node).filter _, ?_⟩)
          rintro first isOld second isTarget rfl
          exact targetWaits first (List.mem_filter.mp isTarget).1 isOld
        mem_nodes := by
          intro other isMem
          obtain isOld | isTarget := List.mem_append.mp (readyPerm.subset isMem)
          · exact invariant.mem_nodes other isOld
          · exact graph.targets_mem node other (List.mem_filter.mp isTarget).1
        indegree_eq := by
          intro target
          have counted := countP_remaining graph isNode notTaken target
          have isCount := invariant.indegree_eq target
          by_cases isTarget : target ∈ graph.targets node <;>
            simp only [isTarget, if_true, if_false] at counted ⊢ <;> omega
        mem_iff := by
          intro other isOther
          rw [readyPerm.mem_iff, List.mem_append, List.mem_filter, invariant.mem_iff other isOther]
          simp only [decide_eq_true_eq]
          by_cases isTarget : other ∈ graph.targets node
          · have waits : state.indegree other ≠ 0 := fun isZero =>
              targetWaits other isTarget ((invariant.mem_iff other isOther).mpr isZero)
            simp only [isTarget, true_and, if_true]
            omega
          · simp [isTarget]
        forward := by
          intro first isFirst target isTarget isTaken
          obtain isOld | isNew := List.mem_append.mp isTaken
          · exact (invariant.forward first isFirst target isTarget isOld).trans
              (List.sublist_append_left _ _)
          · obtain rfl := List.mem_singleton.mp isNew
            have isEarlier : first ∈ state.order :=
              invariant.mem_order_of_ready isFirst isTarget headReady
            exact (List.singleton_sublist.mpr isEarlier).append (List.Sublist.refl [target]) }

/-- It holds after any number of nodes have been taken out. -/
theorem after (steps : Nat) : Invariant graph (graph.after steps) := by
  induction steps with
  | zero => exact start
  | succ _ ih => exact ih.step

end Invariant

namespace Digraph

variable (graph : Digraph Node)

theorem ready_eq_nil_or_length (steps : Nat) :
    (graph.after steps).ready = [] ∨ (graph.after steps).order.length = steps := by
  induction steps with
  | zero => exact Or.inr rfl
  | succ steps ih =>
    rw [after]
    cases isReady : (graph.after steps).ready with
    | nil =>
      left
      rw [step, isReady]
      exact isReady
    | cons =>
      right
      have isLength := ih.resolve_left (by simp [isReady])
      rw [Invariant.step_eq isReady, List.length_append, isLength]
      rfl

theorem ready_eq_nil : (graph.after graph.nodes.length).ready = [] := by
  obtain isNil | isLength := graph.ready_eq_nil_or_length graph.nodes.length
  · exact isNil
  · have invariant : Invariant graph (graph.after graph.nodes.length) := Invariant.after _
    have isShort := (invariant.nodup.subperm invariant.mem_nodes).length_le
    rw [List.length_append, isLength] at isShort
    exact List.length_eq_zero_iff.mp (by omega)

variable {graph} {order : List Node}

theorem perm_of_topologicalOrder (isOrder : graph.topologicalOrder = some order) :
    order.Perm graph.nodes := by
  simp only [topologicalOrder] at isOrder
  split_ifs at isOrder with isComplete
  cases isOrder
  have invariant : Invariant graph (graph.after graph.nodes.length) := Invariant.after _
  have nodup := invariant.nodup
  have subset := invariant.mem_nodes
  rw [graph.ready_eq_nil, List.append_nil] at nodup subset
  exact (nodup.subperm subset).perm_of_length_le isComplete.ge

theorem forward_of_topologicalOrder (isOrder : graph.topologicalOrder = some order)
    {node target : Node} (isNode : node ∈ graph.nodes) (isTarget : target ∈ graph.targets node) :
    [node, target].Sublist order := by
  have isPerm := perm_of_topologicalOrder isOrder
  simp only [topologicalOrder] at isOrder
  split_ifs at isOrder
  cases isOrder
  exact (Invariant.after _).forward node isNode target isTarget
    (isPerm.symm.subset (graph.targets_mem node target isTarget))

end Digraph

end Kahn
