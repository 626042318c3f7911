import UrbanFlow.Incidents.Engine

/-!
# Ways round blocked links

A path that a flow or a vehicle plans is a chain of links. It crosses no blocked link
where a way round them costs less than every path through them does with its penalties.
-/

namespace UrbanFlow.Incidents

open Networks LabelSetting

variable {graph : RoadGraph} {closed : List String} {penalty : String → ℚ}
variable {origin destination : String}

variable {chain : List GraphLink}

/-- A chain of links of a graph, whatever the penalties. -/
abbrev Leads (graph : RoadGraph) (origin : String) (chain : List GraphLink)
    (destination : String) : Prop :=
  (graph.network noPenalty).Chain origin chain destination

theorem chain_iff_leads : (graph.network penalty).Chain origin chain destination ↔
      Leads graph origin chain destination := by
  induction chain generalizing origin with
  | nil => exact Iff.rfl
  | cons _ _ ih => exact and_congr_right fun _ => and_congr_right fun _ => ih

def Avoids (closed : List String) (chain : List GraphLink) : Prop :=
  ∀ link ∈ chain, link.id ∉ closed

/-- There is a way that avoids the blocked links. -/
def WayRound (graph : RoadGraph) (closed : List String) (origin destination : String) : Prop :=
  ∃ chain, Leads graph origin chain destination ∧ Avoids closed chain

theorem crosses_map_iff :
    crosses closed (chain.map GraphLink.id) = false ↔ Avoids closed chain := by
  simp [crosses, Avoids]

theorem WayRound.cons {link : GraphLink} (isLink : link ∈ graph.links) (isOpen : link.id ∉ closed)
    (wayRound : WayRound graph closed link.to_ destination) :
    WayRound graph closed link.from_ destination := by
  obtain ⟨chain, leads, avoids⟩ := wayRound
  refine ⟨link :: chain, ⟨isLink, rfl, leads⟩, ?_⟩
  intro other isOther
  rcases List.mem_cons.mp isOther with rfl | isLater
  · exact isOpen
  · exact avoids other isLater

theorem destination_of_leads (valid : graph.Valid) (leads : Leads graph origin chain destination)
    (nonempty : chain ≠ []) :
    (graph.linkMap ((chain.map GraphLink.id).getLastD "")).to_ = destination := by
  induction chain generalizing origin with
  | nil => exact absurd rfl nonempty
  | cons link rest ih =>
    obtain ⟨isLink, _, isRest⟩ := leads
    cases rest with
    | nil =>
      obtain rfl : link.to_ = destination := isRest
      simp only [List.map_cons, List.map_nil, List.getLastD_cons, List.getLastD_nil]
      rw [valid.linkMap_eq isLink]
    | cons =>
      have later := ih isRest (List.cons_ne_nil _ _)
      simpa only [List.map_cons, List.getLastD_cons] using later

/-- Ids of a chain of links that comes to the destination with its last link only. -/
def IsWay (graph : RoadGraph) (origin : String) (path : List String)
    (destination : String) : Prop :=
  ∃ chain, path = chain.map GraphLink.id ∧ Leads graph origin chain destination ∧
    ∀ link ∈ chain, link.from_ ≠ destination

/-- A way round costs less than everything that goes through, penalties included, by
more than the tolerances of the search. -/
def DetourPays (graph : RoadGraph) (closed : List String) (penalty : String → ℚ)
    (origin destination : String) : Prop :=
  WayRound graph closed origin destination →
    ∃ chain, Leads graph origin chain destination ∧ Avoids closed chain ∧
      ∀ other, Leads graph origin other destination → ¬ Avoids closed other →
        (graph.network penalty).cost chain + graph.outKeys.length * costTolerance <
          (graph.network penalty).cost other

/-- A way round that costs less than the penalty of a blocked link pays. -/
theorem detourPays_of_lt (nonneg : ∀ id, 0 ≤ penalty id)
    (penalised : ∀ id ∈ closed, closedPenalty ≤ penalty id)
    (leads : Leads graph origin chain destination) (avoids : Avoids closed chain)
    (isShort : (graph.network penalty).cost chain + graph.outKeys.length * costTolerance <
      closedPenalty) : DetourPays graph closed penalty origin destination := by
  intro _
  refine ⟨chain, leads, avoids, fun other _ through => isShort.trans_le ?_⟩
  simp only [Avoids, not_forall, not_not] at through
  obtain ⟨link, isMember, isClosed⟩ := through
  have weights : ∀ weight ∈ other.map (graph.network penalty).weight, 0 ≤ weight := by
    intro weight isWeight
    obtain ⟨any, _, rfl⟩ := List.mem_map.mp isWeight
    exact add_nonneg (freeFlowSeconds_pos any).le (nonneg any.id)
  calc closedPenalty
      ≤ penalty link.id := penalised link.id isClosed
    _ ≤ (graph.network penalty).weight link := le_add_of_nonneg_left (freeFlowSeconds_pos link).le
    _ ≤ (graph.network penalty).cost other :=
        List.single_le_sum weights _ (List.mem_map_of_mem isMember)

theorem blockedPenalty_nonneg (closed : List String) (id : String) :
    0 ≤ blockedPenalty closed id := by
  rw [blockedPenalty]
  split
  · norm_num [closedPenalty]
  · exact le_rfl

theorem turnPenalty_nonneg (current : GraphLink) (id : String) :
    0 ≤ turnPenalty graph closed current id := by
  rw [turnPenalty]
  split
  · norm_num [closedPenalty]
  · split
    · norm_num [uturnPenalty]
    · exact le_rfl

/-- What `openPath` gives is a way that avoids the blocked links. -/
theorem openPath_spec (nonneg : ∀ id, 0 ≤ penalty id) {path : List String}
    (isPath : openPath graph closed penalty origin destination = some path) :
    path ≠ [] ∧ crosses closed path = false ∧ IsWay graph origin path destination := by
  simp only [openPath] at isPath
  split at isPath
  · rename_i first rest isShortest
    split at isPath
    · cases isPath
    · rename_i avoids
      cases isPath
      refine ⟨List.cons_ne_nil _ _, Bool.eq_false_iff.mpr avoids, ?_⟩
      have differs : origin ≠ destination := by
        intro same
        simp only [shortestPath, if_pos same] at isShortest
        split at isShortest <;> cases isShortest
      obtain ⟨chain, areIds, isChain, _, starts, _⟩ := shortestPath_chain nonneg differs isShortest
      exact ⟨chain, areIds, chain_iff_leads.mp isChain, starts⟩
  · cases isPath

theorem openPath_of_wayRound (nonneg : ∀ id, 0 ≤ penalty id)
    (known : origin ∈ graph.outKeys ∧ destination ∈ graph.outKeys)
    (differs : origin ≠ destination) (pays : DetourPays graph closed penalty origin destination)
    (wayRound : WayRound graph closed origin destination) :
    ∃ path, openPath graph closed penalty origin destination = some path := by
  obtain ⟨cheap, leads, _, cheaper⟩ := pays wayRound
  obtain ⟨isNone, isEmpty, _⟩ := shortestPath_within graph origin destination penalty nonneg
  cases isShortest : shortestPath graph origin destination penalty with
  | none =>
    rcases isNone.mp isShortest with unknown | unknown | noChain
    · exact absurd known.1 unknown
    · exact absurd known.2 unknown
    · exact absurd ⟨cheap, chain_iff_leads.mpr leads⟩ noChain
  | some path =>
    cases path with
    | nil => exact absurd (isEmpty.mp isShortest).2 differs
    | cons first rest =>
      obtain ⟨chain, areIds, isChain, _, _, bound⟩ := shortestPath_chain nonneg differs isShortest
      have avoids : Avoids closed chain := by
        by_contra through
        have least := bound cheap (chain_iff_leads.mpr leads)
        have more := cheaper chain (chain_iff_leads.mp isChain) through
        linarith
      have isOpen : crosses closed (first :: rest) = false := by
        rw [areIds]
        exact crosses_map_iff.mpr avoids
      exact ⟨first :: rest, by simp only [openPath, isShortest, isOpen,
        Bool.false_eq_true, if_false]⟩

section

variable {flow : Flow} (isSome : (flowRoute graph flow).isSome)

include isSome

theorem ends_of_flowRoute : (flow.origin ∈ graph.outKeys ∧ flow.destination ∈ graph.outKeys) ∧
      flow.origin ≠ flow.destination := by
  obtain ⟨path, isRoute⟩ := Option.isSome_iff_exists.mp isSome
  simp only [flowRoute] at isRoute
  split at isRoute
  · rename_i first rest isShortest
    simp only [shortestPath] at isShortest
    split at isShortest
    · cases isShortest
    · rename_i known
      split at isShortest
      · cases isShortest
      · rename_i differs
        exact ⟨⟨not_not.mp (not_or.mp known).1, not_not.mp (not_or.mp known).2⟩, differs⟩
  · cases isRoute

theorem baseRoute_isWay : baseRoute graph flow ≠ [] ∧
      IsWay graph flow.origin (baseRoute graph flow) flow.destination := by
  obtain ⟨path, isRoute⟩ := Option.isSome_iff_exists.mp isSome
  rw [baseRoute, isRoute, Option.getD_some]
  obtain ⟨nonempty, chain, areIds, leads, starts⟩ := flowRoute_spec isRoute
  exact ⟨nonempty, chain, areIds, leads, starts⟩

theorem plannedPath_isWay : plannedPath graph closed flow ≠ [] ∧
      IsWay graph flow.origin (plannedPath graph closed flow) flow.destination := by
  simp only [plannedPath]
  split
  · exact baseRoute_isWay isSome
  · cases isPath : openPath graph closed (blockedPenalty closed) flow.origin flow.destination with
    | none => exact baseRoute_isWay isSome
    | some =>
      obtain ⟨nonempty, _, isWay⟩ := openPath_spec (blockedPenalty_nonneg closed) isPath
      exact ⟨nonempty, isWay⟩

theorem plannedPath_avoids
    (pays : DetourPays graph closed (blockedPenalty closed) flow.origin flow.destination)
    (wayRound : WayRound graph closed flow.origin flow.destination) :
    crosses closed (plannedPath graph closed flow) = false := by
  simp only [plannedPath]
  split
  · rename_i isNil
    simp [isNil, crosses]
  · obtain ⟨known, differs⟩ := ends_of_flowRoute isSome
    obtain ⟨path, isPath⟩ :=
      openPath_of_wayRound (blockedPenalty_nonneg closed) known differs pays wayRound
    rw [isPath, Option.getD_some]
    exact (openPath_spec (blockedPenalty_nonneg closed) isPath).2.1

end

end UrbanFlow.Incidents
