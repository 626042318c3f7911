import UrbanFlow.Networks.Graph

/-!
# The route of a flow

`shortest_path`: Dijkstra over free-flow seconds, with penalties. The heap gives
its least entry, by cost and then by node; an entry of a node that is done is
skipped. A cost replaces another only when it is less by more than `1e-12`.
-/

namespace UrbanFlow.Networks

/-- The keys of `outgoing()`: the nodes, and where links start. -/
def RoadGraph.outKeys (graph : RoadGraph) : List String :=
  (graph.nodes.map GraphNode.id ++ graph.links.map GraphLink.from_).dedup

/-- The tolerance of the comparison of two costs. -/
def costTolerance : ℚ := 1 / 10 ^ 12

/-- A heap entry comes before another. -/
def entryLE (first second : ℚ × String) : Bool :=
  decide (first.1 < second.1 ∨ first.1 = second.1 ∧ first.2 ≤ second.2)

/-- `heappop`: the least entry, and the others. -/
def popLeast : List (ℚ × String) → Option ((ℚ × String) × List (ℚ × String))
  | [] => none
  | entry :: rest =>
    let least := rest.foldl (fun best other => if entryLE best other then best else other) entry
    some (least, (entry :: rest).erase least)

/-- What the search knows: the best costs, the link each node was reached by, the
heap and the nodes that are done. -/
structure Search where
  best : String → Option ℚ
  via : String → Option GraphLink
  heap : List (ℚ × String)
  done : List String

/-- The start of a search. -/
def Search.initial (origin : String) : Search where
  best := Function.update (fun _ => none) origin (some 0)
  via := fun _ => none
  heap := [(0, origin)]
  done := []

/-- `step < best.get(link.to, inf) - 1e-12`. -/
def improves (step : ℚ) (known : Option ℚ) : Bool := match known with
  | none => true
  | some cost => decide (step < cost - costTolerance)

/-- One link out of a node reached at a cost. -/
def Search.relax (penalty : String → ℚ) (cost : ℚ) (search : Search) (link : GraphLink) : Search :=
  let step := cost + freeFlowSeconds link + penalty link.id
  if improves step (search.best link.to_) then
    { search with
      best := Function.update search.best link.to_ (some step)
      via := Function.update search.via link.to_ (some link)
      heap := (step, link.to_) :: search.heap }
  else search

/-- One round of the search; `none` when it ends. -/
def Search.round (graph : RoadGraph) (penalty : String → ℚ) (destination : String)
    (search : Search) : Search × Bool :=
  match popLeast search.heap with
  | none => (search, true)
  | some ((cost, node), rest) =>
    if node ∈ search.done then ({ search with heap := rest }, false)
    else
      let marked := { search with heap := rest, done := node :: search.done }
      if node = destination then (marked, true)
      else ((graph.outgoing node).foldl (Search.relax penalty cost) marked, false)

/-- The search, for as many rounds as there can be: every round takes an entry
from the heap, and every link adds at most one. -/
def Search.run (graph : RoadGraph) (penalty : String → ℚ)
    (destination : String) : Nat → Search → Search
  | 0, search => search
  | rounds + 1, search =>
    match search.round graph penalty destination with
    | (after, true) => after
    | (after, false) => Search.run graph penalty destination rounds after

/-- The search of `shortest_path`, to its end. -/
def searchFrom (graph : RoadGraph) (origin destination : String) (penalty : String → ℚ) : Search :=
  Search.run graph penalty destination (graph.links.length + 2) (Search.initial origin)

/-- The links from the origin to a node, followed backwards; `none` where a node was
not reached by a link, or where the steps do not suffice. -/
def walkBack (via : String → Option GraphLink)
    (origin : String) : Nat → String → Option (List String)
  | 0, _ => none
  | steps + 1, node =>
    if node = origin then some []
    else do
      let link ← via node
      let path ← walkBack via origin steps link.from_
      some (path ++ [link.id])

section

variable (graph : RoadGraph) (origin destination : String) (penalty : String → ℚ)

def foundPath : Option (List String) :=
  walkBack (searchFrom graph origin destination penalty).via origin
    (graph.outKeys.length + 1) destination

def shortestPath : Option (List String) :=
  if origin ∉ graph.outKeys ∨ destination ∉ graph.outKeys then none
  else if origin = destination then some []
  else match (searchFrom graph origin destination penalty).via destination with
    | none => none
    | some _ => foundPath graph origin destination penalty

end

/-- Without penalties. -/
def noPenalty : String → ℚ := fun _ => 0

end UrbanFlow.Networks
