import UrbanFlow.Networks.Stepper

/-!
# The tick of a batch run

`simulate_network` and `run_disruption` share the rules of a tick: the arrivals at the
gates in the order of the flows, then the incoming links of every node in the order of
the ids. They differ in what the links allow, which is given here for each tick.

Every tick is a sequence of moves. What the moves keep, ticks keep.
-/

namespace UrbanFlow.Networks

/-- What the links allow in a tick: the vehicles they store, the seconds to cross them,
the credit they gain and the most they keep. -/
structure Roads where
  cap : String → Nat
  cross : String → ℚ
  refill : String → ℚ
  lim : String → ℚ

/-- A flow with arrivals: the path of new vehicles, the chance of one in a tick and the
free-flow seconds that its vehicles are given. -/
structure Gate where
  path : List String
  p_arrive : ℚ
  free_flow : ℚ

inductive Passage
  | enters (link : String) (vehicle : Vehicle) (t : ℚ)
  | leaves (link : String) (vehicle : Vehicle) (t : ℚ)
  deriving DecidableEq

/-- What a run changes. `log` has what entered and left, in order; no rule reads it. -/
structure Traffic where
  queues : String → Queue
  credit : String → ℚ
  peak : String → Nat
  passed_link : String → Nat
  passed_node : String → Nat
  generated : Nat
  entered : Nat
  blocked : Nat
  completed : Nat
  travel_total : ℚ
  delay_total : ℚ
  drawn : Nat
  log : List Passage

namespace Traffic

/-- An empty network. -/
def initial : Traffic where
  queues := fun _ => []
  credit := fun _ => 0
  peak := fun _ => 0
  passed_link := fun _ => 0
  passed_node := fun _ => 0
  generated := 0
  entered := 0
  blocked := 0
  completed := 0
  travel_total := 0
  delay_total := 0
  drawn := 0
  log := []

section

variable (roads : Roads)

/-- A vehicle joins the queue of a link. -/
def enqueue (t : ℚ) (traffic : Traffic) (link : String) (vehicle : Vehicle) : Traffic :=
  let queue := traffic.queues link ++ [(vehicle, t + roads.cross link)]
  { traffic with
    queues := Function.update traffic.queues link queue
    peak := Function.update traffic.peak link (max (traffic.peak link) queue.length)
    log := traffic.log ++ [.enters link vehicle t] }

/-- The arrivals of one flow. Vehicles are numbered as they enter. -/
def arrive (draws : Nat → ℚ) (t : ℚ) (traffic : Traffic) (gate : Gate) : Traffic :=
  let drawn := { traffic with drawn := traffic.drawn + 1 }
  if draws traffic.drawn < gate.p_arrive then
    let generated := { drawn with generated := drawn.generated + 1 }
    let first := gate.path.headD ""
    if roads.cap first ≤ (generated.queues first).length then
      { generated with blocked := generated.blocked + 1 }
    else
      let vehicle : Vehicle :=
        { vid := generated.entered
          path := gate.path
          index := 0
          entered_at := t
          free_flow := gate.free_flow }
      { generated with entered := generated.entered + 1 }.enqueue roads t first vehicle
  else drawn

section

variable (t : ℚ) (traffic : Traffic)

/-- The head of a queue leaves its link at a node. -/
def dequeue (link node : String) (vehicle : Vehicle) (rest : Queue) : Traffic :=
  { traffic with
    queues := Function.update traffic.queues link rest
    credit := Function.update traffic.credit link (traffic.credit link - 1)
    passed_link := Function.update traffic.passed_link link (traffic.passed_link link + 1)
    passed_node := Function.update traffic.passed_node node (traffic.passed_node node + 1)
    log := traffic.log ++ [.leaves link vehicle t] }

/-- A vehicle arrives at its destination. -/
def complete (vehicle : Vehicle) : Traffic :=
  let elapsed := t - vehicle.entered_at
  { traffic with
    completed := traffic.completed + 1
    travel_total := traffic.travel_total + elapsed
    delay_total := traffic.delay_total + max 0 (elapsed - vehicle.free_flow) }

end

/-- One round of the loop over a queue; `none` when the loop ends. -/
def serveOne (t : ℚ) (link node : String) (traffic : Traffic) : Option Traffic :=
  match traffic.queues link with
  | [] => none
  | (vehicle, ready) :: rest =>
    if 1 ≤ traffic.credit link ∧ ready ≤ t then if vehicle.index + 1 = vehicle.path.length then
        some ((traffic.dequeue t link node vehicle rest).complete t vehicle)
      else
        let next := vehicle.path.getD (vehicle.index + 1) ""
        if roads.cap next ≤ (traffic.queues next).length then none
        else some ((traffic.dequeue t link node vehicle rest).enqueue roads t next
            { vehicle with index := vehicle.index + 1 })
    else none

/-- The credit of a link grows, up to its limit. -/
def grant (link : String) (traffic : Traffic) : Traffic :=
  { traffic with
    credit := Function.update traffic.credit link
      (min (traffic.credit link + roads.refill link) (roads.lim link)) }

/-- An incoming link of a node, which may be shut in this tick. -/
def serveLink (t : ℚ) (shut : String → GraphLink → Bool) (node : String) (traffic : Traffic)
    (link : GraphLink) : Traffic :=
  let granted := traffic.grant roads link.id
  if shut node link then granted
  else untilDone (serveOne roads t link.id node) (granted.queues link.id).length granted

end

/-- The incoming links of a node. -/
def serveNode (graph : RoadGraph) (roads : Roads) (t : ℚ) (shut : String → GraphLink → Bool)
    (traffic : Traffic) (node : String) : Traffic :=
  (graph.incoming node).foldl (serveLink roads t shut node) traffic

def arrivals (roads : Roads) (draws : Nat → ℚ) (t : ℚ) (gates : List Gate)
    (traffic : Traffic) : Traffic :=
  gates.foldl (arrive roads draws t) traffic

/-- The nodes in the order of their ids. -/
def service (graph : RoadGraph) (roads : Roads) (t : ℚ) (shut : String → GraphLink → Bool)
    (traffic : Traffic) : Traffic :=
  graph.sortedNodes.foldl (serveNode graph roads t shut) traffic

/-- What can happen in a tick, one thing at a time. -/
inductive Move (roads : Roads) (t : ℚ) (gates : List Gate) : Traffic → Traffic → Prop
  | draw (traffic : Traffic) :
      Move roads t gates traffic { traffic with drawn := traffic.drawn + 1 }
  | block (traffic : Traffic) : Move roads t gates traffic
        { traffic with generated := traffic.generated + 1, blocked := traffic.blocked + 1 }
  | enter (traffic : Traffic) (gate : Gate) (isGate : gate ∈ gates)
      (hasRoom : (traffic.queues (gate.path.headD "")).length < roads.cap (gate.path.headD "")) :
      Move roads t gates traffic ({ traffic with
          generated := traffic.generated + 1
          entered := traffic.entered + 1 }.enqueue roads t (gate.path.headD "")
            { vid := traffic.entered, path := gate.path, index := 0, entered_at := t,
              free_flow := gate.free_flow })
  | grant (traffic : Traffic) (link : String) :
      Move roads t gates traffic (traffic.grant roads link)
  | finish (traffic : Traffic) (link node : String) (vehicle : Vehicle) (ready : ℚ) (rest : Queue)
      (isQueue : traffic.queues link = (vehicle, ready) :: rest)
      (hasCredit : 1 ≤ traffic.credit link)
      (isReady : ready ≤ t)
      (isLast : vehicle.index + 1 = vehicle.path.length) :
      Move roads t gates traffic ((traffic.dequeue t link node vehicle rest).complete t vehicle)
  | pass (traffic : Traffic) (link node : String) (vehicle : Vehicle) (ready : ℚ) (rest : Queue)
      (isQueue : traffic.queues link = (vehicle, ready) :: rest)
      (hasCredit : 1 ≤ traffic.credit link)
      (isReady : ready ≤ t)
      (notLast : vehicle.index + 1 ≠ vehicle.path.length)
      (hasRoom : (traffic.queues (vehicle.path.getD (vehicle.index + 1) "")).length <
        roads.cap (vehicle.path.getD (vehicle.index + 1) "")) :
      Move roads t gates traffic ((traffic.dequeue t link node vehicle rest).enqueue roads t
          (vehicle.path.getD (vehicle.index + 1) "")
          { vehicle with index := vehicle.index + 1 })

/-- Moves, one after another. -/
abbrev Moves (roads : Roads) (t : ℚ) (gates : List Gate) : Traffic → Traffic → Prop :=
  Relation.ReflTransGen (Move roads t gates)

section

variable {roads : Roads} {t : ℚ} {gates : List Gate} {draws : Nat → ℚ}

theorem moves_arrive {gate : Gate} (isGate : gate ∈ gates) (traffic : Traffic) :
    Moves roads t gates traffic (traffic.arrive roads draws t gate) := by
  simp only [arrive]
  split
  · split
    · exact .tail (.single (.draw traffic)) (.block _)
    · rename_i hasRoom
      exact .tail (.single (.draw traffic)) (.enter _ gate isGate (not_le.mp hasRoom))
  · exact .single (.draw traffic)

theorem move_serveOne {link node : String} {traffic after : Traffic}
    (isRound : serveOne roads t link node traffic = some after) :
    Move roads t gates traffic after := by
  simp only [serveOne] at isRound
  split at isRound
  · cases isRound
  · rename_i vehicle ready rest isQueue
    split at isRound
    · rename_i isReady
      split at isRound
      · rename_i isLast
        cases isRound
        exact .finish traffic link node vehicle ready rest isQueue isReady.1 isReady.2 isLast
      · rename_i notLast
        split at isRound
        · cases isRound
        · rename_i hasRoom
          cases isRound
          exact .pass traffic link node vehicle ready rest isQueue isReady.1 isReady.2
            notLast (not_le.mp hasRoom)
    · cases isRound

theorem moves_untilDone {link node : String} (rounds : Nat) (traffic : Traffic) :
    Moves roads t gates traffic (untilDone (serveOne roads t link node) rounds traffic) := by
  induction rounds generalizing traffic with
  | zero => exact .refl
  | succ _ ih =>
    simp only [untilDone]
    split
    · exact .refl
    · rename_i after isRound
      exact .head (move_serveOne isRound) (ih after)

theorem moves_serveLink (shut : String → GraphLink → Bool) (node : String) (link : GraphLink)
    (traffic : Traffic) :
    Moves roads t gates traffic (serveLink roads t shut node traffic link) := by
  simp only [serveLink]
  split
  · exact .single (.grant traffic link.id)
  · exact .head (.grant traffic link.id) (moves_untilDone _ _)

theorem moves_foldl {Item : Type} {step : Traffic → Item → Traffic} {items : List Item}
    (moves : ∀ item ∈ items, ∀ traffic, Moves roads t gates traffic (step traffic item))
    (traffic : Traffic) : Moves roads t gates traffic (items.foldl step traffic) := by
  induction items generalizing traffic with
  | nil => exact .refl
  | cons item _ ih =>
    exact (moves item List.mem_cons_self traffic).trans (ih (fun other isOther =>
        moves other (List.mem_cons_of_mem item isOther)) _)

theorem moves_arrivals (traffic : Traffic) :
    Moves roads t gates traffic (traffic.arrivals roads draws t gates) :=
  moves_foldl (fun _ isGate => moves_arrive isGate) traffic

theorem moves_service (graph : RoadGraph) (shut : String → GraphLink → Bool) (traffic : Traffic) :
    Moves roads t gates traffic (traffic.service graph roads t shut) :=
  moves_foldl (fun node _ => moves_foldl fun link _ => moves_serveLink shut node link) traffic

theorem Moves.keep {kept : Traffic → Prop}
    (preserved : ∀ before after, Move roads t gates before after → kept before → kept after)
    {before after : Traffic} (moves : Moves roads t gates before after) (holds : kept before) :
    kept after := by
  induction moves with
  | refl => exact holds
  | tail _ isMove ih => exact preserved _ _ isMove ih

end

end Traffic
end UrbanFlow.Networks
