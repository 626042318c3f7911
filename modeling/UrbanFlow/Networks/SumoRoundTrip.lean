import Mathlib
import UrbanFlow.Library.Folds
import UrbanFlow.Networks.SumoIo

/-!
# Exporting and importing a graph

What `import_sumo` reads of each element that `export_sumo` writes, and from it
what it reads of the whole document.
-/

namespace UrbanFlow.Networks
namespace Sumo

open Reading

attribute [local simp] Element.attributes Element.texts.childTexts junctionElement edgeElement Element.get

/-! ## Gathering -/

namespace Reading

variable {Value : Type}

/-- The value of an element that is read. -/
def value? : Reading Value → Option Value
  | .skipped => none
  | .noted _ => none
  | .read value _ => some value
  | .raises => none

@[simp]
theorem value?_skipped : (skipped : Reading Value).value? = none := rfl

@[simp]
theorem value?_noted (message : Message) : (noted message : Reading Value).value? = none :=
  rfl

@[simp]
theorem value?_read (value : Value) (messages : List Message) :
    (read value messages).value? = some value :=
  rfl

end Reading

theorem foldlM_gather {Source Value : Type} {put : List Value → Value → List Value}
    {read : Element → Reading Value} {element : Source → Element} {sources : List Source}
    {gathered : Gathered Value} (neverRaises : ∀ source ∈ sources, read (element source) ≠ .raises)
    (appends : ∀ earlier value later, earlier ++ value :: later =
        gathered.values ++ sources.filterMap (fun source => (read (element source)).value?) →
      put earlier value = earlier ++ [value]) :
    ∃ messages skipped, (sources.map element).foldlM (gather put read) gathered = some
          ⟨gathered.values ++ sources.filterMap (fun source =>
            (read (element source)).value?), messages, skipped⟩ := by
  induction sources generalizing gathered with
  | nil => exact ⟨gathered.messages, gathered.skipped, by simp⟩
  | cons source sources ih =>
    have laterNeverRaise : ∀ other ∈ sources, read (element other) ≠ .raises :=
      fun other isOther => neverRaises other (List.mem_cons_of_mem source isOther)
    rw [List.map_cons, List.foldlM_cons]
    cases isRead : read (element source) with
    | skipped =>
      simp only [List.filterMap_cons, isRead, value?_skipped] at appends ⊢
      simp only [gather, isRead, Option.bind_eq_bind, Option.bind_some]
      exact ih laterNeverRaise appends
    | noted =>
      simp only [List.filterMap_cons, isRead, value?_noted] at appends ⊢
      simp only [gather, isRead, Option.bind_eq_bind, Option.bind_some]
      exact ih laterNeverRaise appends
    | read value messages =>
      simp only [List.filterMap_cons, isRead, value?_read] at appends ⊢
      simp only [gather, isRead, Option.bind_eq_bind, Option.bind_some, appends _ value _ rfl]
      have laterAppends : ∀ earlier other later, earlier ++ other :: later =
            (gathered.values ++ [value]) ++ sources.filterMap (fun source =>
              (read (element source)).value?) →
          put earlier other = earlier ++ [other] := by
        simpa using appends
      simpa using @ih ⟨gathered.values ++ [value], gathered.messages ++ messages,
          gathered.skipped⟩ laterNeverRaise laterAppends
    | raises => exact absurd isRead (neverRaises source List.mem_cons_self)

theorem putNode_of_not_mem {nodes : List Node} {node : Node}
    (isNew : node.id ∉ nodes.map Node.id) : putNode nodes node = nodes ++ [node] :=
  if_neg isNew

/-! ## One node, one link -/

/-- What the round trip makes of a node. -/
def returnedNode (node : Node) : Option Node := if node.id.toList.head? = some ':' then none else
    some { node with
      x := node.x.printed.read
      y := node.y.printed.read
      control := if node.kind = .gate then none else node.control }

/-- What the round trip makes of a link between the nodes it has read. -/
def returnedLink (nodes : List Node) (link : Link) : Option Link :=
  if link.id.toList.head? = some ':' ∨ link.from_ ∉ nodes.map Node.id ∨
      link.to_ ∉ nodes.map Node.id ∨ link.length.printed.read.le 0 ∨
      link.speed.printed.read.le 0 then none
  else
    some { link with
      length := link.length.printed.read
      speed := link.speed.printed.read }

section

variable {numeralText : Number → String} {parseFloat : String → Option Number}

theorem ne_empty_of_isId {id : String} (isAnId : isId id = true) : id ≠ "" := by
  rintro rfl
  simp [isId] at isAnId

section

variable (node : Node)

theorem getText_id_junctionElement :
    (junctionElement node).getText numeralText "id" "" = node.id := by
  simp [Element.getText, AttributeValue.asText]

theorem getText_type_junctionElement :
    (junctionElement node).getText numeralText "type" "priority" = junctionType node := by
  simp [Element.getText, AttributeValue.asText, List.lookup]

/-- The position of a junction that was written. -/
theorem getNumber_junctionElement :
    (junctionElement node).getNumber parseFloat "x" "0" = some node.x.printed.read ∧
      (junctionElement node).getNumber parseFloat "y" "0" = some node.y.printed.read := by
  simp [Element.getNumber, AttributeValue.asNumber, num, List.lookup]

theorem junctionType_mem : junctionType node ≠ "internal" ∧
      junctionType node ∈ ["priority", "dead_end", "traffic_light",
        "traffic_light_unregulated"] := by
  unfold junctionType
  split_ifs <;> decide

theorem junctionType_eq_dead_end : junctionType node = "dead_end" ↔ node.kind = .gate := by
  unfold junctionType
  split_ifs with isGate isSignal
  · exact iff_of_true rfl isGate
  · exact iff_of_false (by decide) isGate
  · exact iff_of_false (by decide) isGate

theorem traffic_light_begins_junctionType : "traffic_light".toList <+: (junctionType node).toList ↔
      node.kind ≠ .gate ∧ node.control = some .signal := by
  unfold junctionType
  split_ifs with isGate isSignal
  · exact iff_of_false (by decide) fun signalled => signalled.1 isGate
  · exact iff_of_true List.prefix_rfl ⟨isGate, isSignal⟩
  · exact iff_of_false (by decide) fun signalled => isSignal signalled.2

end

theorem readJunction_junctionElement {node : Node} (isAnId : isId node.id = true) :
    readJunction numeralText parseFloat (junctionElement node) = match returnedNode node with
      | none => .skipped
      | some returned => .read returned [] := by
  have notEmpty := ne_empty_of_isId isAnId
  obtain ⟨notInternal, isKnown⟩ := junctionType_mem node
  have isX : (junctionElement node).getNumber parseFloat "x" "0" =
      some node.x.printed.read := (getNumber_junctionElement node).1
  have isY : (junctionElement node).getNumber parseFloat "y" "0" =
      some node.y.printed.read := (getNumber_junctionElement node).2
  simp only [readJunction, getText_id_junctionElement,
    getText_type_junctionElement, isX, isY, notEmpty, notInternal, isAnId,
    if_pos isKnown, junctionType_eq_dead_end, traffic_light_begins_junctionType,
    false_or, or_false, if_true, returnedNode]
  by_cases isColon : node.id.toList.head? = some ':'
  · simp only [isColon, if_true]
  · simp only [isColon, if_false]
    obtain ⟨_, _, _, kind, control⟩ := node
    rcases kind with _ | _ <;> rcases control with _ | ⟨⟩ <;> simp

section

variable (link : Link)

theorem getText_id_edgeElement : (edgeElement link).getText numeralText "id" "" = link.id := by
  simp [Element.getText, AttributeValue.asText]

/-- The name of an edge that was written; without one there is no attribute. -/
theorem getText_name_edgeElement :
    (edgeElement link).getText numeralText "name" "" = link.name := by
  by_cases unnamed : link.name = "" <;>
    simp [Element.getText, AttributeValue.asText, List.lookup, unnamed]

theorem get_edgeElement : (edgeElement link).get "function" = none ∧
      (edgeElement link).get "from" = some (.text link.from_) ∧
      (edgeElement link).get "to" = some (.text link.to_) := by
  by_cases unnamed : link.name = "" <;>
    simp [List.lookup, unnamed]

/-- A lane that is written. -/
def laneElement : Element := .mk "lane" [("speed", num link.speed), ("length", num link.length)] []

theorem findall_lane_edgeElement :
    (edgeElement link).findall "lane" = List.replicate link.lanes (laneElement link) := by
  simp [Element.findall, Element.children, Element.tag, laneElement]

theorem getNumber_laneElement :
    (laneElement link).getNumber parseFloat "length" "0" = some link.length.printed.read ∧
      (laneElement link).getNumber parseFloat "speed" "13.89" = some link.speed.printed.read := by
  simp [laneElement, Element.getNumber, AttributeValue.asNumber, num, List.lookup]

end

theorem readEdge_edgeElement {nodes : List Node} {link : Link} (isAnId : isId link.id = true)
    (lanesPos : 1 ≤ link.lanes) :
    (readEdge numeralText parseFloat nodes (edgeElement link)).value? = returnedLink nodes link ∧
      readEdge numeralText parseFloat nodes (edgeElement link) ≠ .raises := by
  obtain ⟨noFunction, isFrom, isTo⟩ := get_edgeElement link
  have isLength : (laneElement link).getNumber parseFloat "length" "0" =
      some link.length.printed.read := (getNumber_laneElement link).1
  have isSpeed : (laneElement link).getNumber parseFloat "speed" "13.89" =
      some link.speed.printed.read := (getNumber_laneElement link).2
  have hasLanes : (edgeElement link).findall "lane" =
      laneElement link :: List.replicate (link.lanes - 1) (laneElement link) := by
    rw [findall_lane_edgeElement, ← List.replicate_succ, Nat.sub_add_cancel lanesPos]
  have lanesEq : (laneElement link ::
      List.replicate (link.lanes - 1) (laneElement link)).length = link.lanes := by
    rw [List.length_cons, List.length_replicate, Nat.sub_add_cancel lanesPos]
  simp only [readEdge, getText_id_edgeElement, getText_name_edgeElement,
    noFunction, isFrom, isTo, hasLanes, lanesEq, isLength, isSpeed, isAnId,
    AttributeValue.asText, reduceCtorEq, false_or, if_true, returnedLink]
  by_cases isColon : link.id.toList.head? = some ':'
  · simp [isColon]
  by_cases fromUnknown : link.from_ ∉ nodes.map Node.id
  · simp only [isColon, fromUnknown, not_false_eq_true, true_or, or_true, if_false,
      if_true, value?_noted, ne_eq, reduceCtorEq, and_self]
  by_cases toUnknown : link.to_ ∉ nodes.map Node.id
  · simp only [isColon, toUnknown, not_false_eq_true, true_or, or_true, if_false,
      if_true, value?_noted, ne_eq, reduceCtorEq, and_self]
  by_cases notPositive : link.length.printed.read.le 0 = true ∨ link.speed.printed.read.le 0 = true
  · simp only [isColon, fromUnknown, toUnknown, notPositive, or_self, or_true,
      if_false, if_true, value?_noted, ne_eq, reduceCtorEq,
      not_false_eq_true, and_self]
  · simp only [isColon, fromUnknown, toUnknown, notPositive, or_self, if_false,
      value?_read, ne_eq, reduceCtorEq, not_false_eq_true,
      and_self]

/-! ## The document -/

section

variable (graph : Graph)

/-- The elements of a document that was written, by their names. -/
theorem findall_exportSumo :
    (exportSumo graph).findall "junction" = graph.sortedNodes.map junctionElement ∧
      (exportSumo graph).findall "edge" = graph.sortedLinks.map edgeElement := by
  have connectionTag : ∀ element ∈ graph.sortedNodes.flatMap (connectionElements graph),
      element.tag = "connection" := by
    intro element isMem
    obtain ⟨node, -, isMem⟩ := List.mem_flatMap.mp isMem
    obtain ⟨inLink, -, isMem⟩ := List.mem_flatMap.mp isMem
    obtain ⟨outLink, -, isElement⟩ := List.mem_filterMap.mp isMem
    split_ifs at isElement
    cases isElement
    rfl
  have noConnection : ∀ tag, tag ≠ "connection" →
      (graph.sortedNodes.flatMap (connectionElements graph)).filter
        (fun child => child.tag = tag) = [] := by
    intro tag notConnection
    refine List.filter_eq_nil_iff.mpr fun element isMem => ?_
    simpa [connectionTag element isMem] using notConnection.symm
  simp only [Element.findall, exportSumo, Element.children, List.filter_append,
    noConnection "junction" (by decide), noConnection "edge" (by decide),
    List.append_nil]
  constructor
  · rw [List.filter_eq_nil_iff.mpr, List.filter_eq_self.mpr, List.nil_append]
    · simp [Element.tag]
    · simp [Element.tag]
  · rw [List.filter_eq_self.mpr, List.filter_eq_nil_iff.mpr, List.append_nil]
    · simp [Element.tag]
    · simp [Element.tag]

section

variable {text : String}

theorem mem_childTexts {elements : List Element} :
    text ∈ Element.texts.childTexts elements ↔ ∃ element ∈ elements, text ∈ element.texts := by
  induction elements with
  | nil => simp
  | cons _ _ ih => simp [ih]

theorem mem_texts_junctionElement {node : Node} :
    text ∈ (junctionElement node).texts ↔ text = node.id ∨ text = junctionType node := by
  simp [Element.texts, attributeTexts, num]

theorem mem_texts_edgeElement {link : Link} : text ∈ (edgeElement link).texts ↔
      text = link.id ∨ text = link.from_ ∨ text = link.to_ ∨ text = "-1" ∨
        text = link.name ∧ link.name ≠ "" := by
  have noLaneText : ∀ element ∈ List.replicate link.lanes (laneElement link),
      text ∉ element.texts := by
    intro element isMem
    rw [List.eq_of_mem_replicate isMem]
    simp [laneElement, Element.texts, attributeTexts, num]
  have noChildText : text ∉ Element.texts.childTexts
      (List.replicate link.lanes (laneElement link)) := by
    rw [mem_childTexts]
    rintro ⟨element, isMem, isText⟩
    exact noLaneText element isMem isText
  unfold laneElement at noChildText
  by_cases unnamed : link.name = "" <;>
    simp [Element.texts, attributeTexts, noChildText, unnamed]

end

theorem texts_connectionElements_legal (idsLegal : ∀ link ∈ graph.links, isXmlText link.id = true)
    {node : Node} {element : Element} (isMem : element ∈ connectionElements graph node) :
    ∀ text ∈ element.texts, isXmlText text = true := by
  obtain ⟨inLink, isIn, isMem⟩ := List.mem_flatMap.mp isMem
  obtain ⟨outLink, isOut, isElement⟩ := List.mem_filterMap.mp isMem
  have inLegal : isXmlText inLink.id = true :=
    idsLegal inLink ((List.mem_insertionSort _).mp (List.mem_filter.mp isIn).1)
  have outLegal : isXmlText outLink.id = true :=
    idsLegal outLink ((List.mem_insertionSort _).mp (List.mem_filter.mp isOut).1)
  have zeroLegal : isXmlText "0" = true := by decide
  split_ifs at isElement
  cases isElement
  simp [Element.texts, attributeTexts, inLegal, outLegal, zeroLegal]

/-- The texts of a document that was written are the ids and the names. -/
theorem texts_exportSumo_legal (accepted : graph.Accepted) :
    (exportSumo graph).texts.all isXmlText = true ↔
      (∀ node ∈ graph.nodes, isXmlText node.id = true) ∧ ∀ link ∈ graph.links,
          isXmlText link.id = true ∧ isXmlText link.name = true := by
  have textsEq : (exportSumo graph).texts =
      "1.16" :: Element.texts.childTexts (graph.sortedLinks.map edgeElement ++
        graph.sortedNodes.map junctionElement ++
        graph.sortedNodes.flatMap (connectionElements graph)) := by
    simp [exportSumo, Element.texts, attributeTexts]
  rw [textsEq, List.all_eq_true]
  simp only [List.mem_cons, mem_childTexts, List.mem_append, List.mem_map]
  constructor
  · intro allLegal
    have nodeMem : ∀ node ∈ graph.nodes, node ∈ graph.sortedNodes :=
      fun node isNode => (List.mem_insertionSort _).mpr isNode
    have linkMem : ∀ link ∈ graph.links, link ∈ graph.sortedLinks :=
      fun link isLink => (List.mem_insertionSort _).mpr isLink
    refine ⟨fun node isNode => ?_, fun link isLink => ⟨?_, ?_⟩⟩
    · exact allLegal node.id (Or.inr ⟨junctionElement node,
        Or.inl (Or.inr ⟨node, nodeMem node isNode, rfl⟩),
        mem_texts_junctionElement.mpr (Or.inl rfl)⟩)
    · exact allLegal link.id (Or.inr ⟨edgeElement link,
        Or.inl (Or.inl ⟨link, linkMem link isLink, rfl⟩),
        mem_texts_edgeElement.mpr (Or.inl rfl)⟩)
    · by_cases unnamed : link.name = ""
      · rw [unnamed]
        rfl
      · exact allLegal link.name (Or.inr ⟨edgeElement link,
          Or.inl (Or.inl ⟨link, linkMem link isLink, rfl⟩),
          mem_texts_edgeElement.mpr (by simp [unnamed])⟩)
  · rintro ⟨nodesLegal, linksLegal⟩ text isText
    have endLegal : ∀ id ∈ graph.nodes.map Node.id, isXmlText id = true := by
      intro id isMem
      obtain ⟨node, isNode, rfl⟩ := List.mem_map.mp isMem
      exact nodesLegal node isNode
    obtain rfl | ⟨element, (⟨link, isLink, rfl⟩ | ⟨node, isNode, rfl⟩) | isMem, isText⟩ := isText
    · decide
    · have isLink : link ∈ graph.links := (List.mem_insertionSort _).mp isLink
      obtain rfl | rfl | rfl | rfl | ⟨rfl, -⟩ := mem_texts_edgeElement.mp isText
      · exact (linksLegal link isLink).1
      · exact endLegal _ (accepted.from_mem link isLink)
      · exact endLegal _ (accepted.to_mem link isLink)
      · decide
      · exact (linksLegal link isLink).2
    · have isNode : node ∈ graph.nodes := (List.mem_insertionSort _).mp isNode
      obtain rfl | rfl := mem_texts_junctionElement.mp isText
      · exact nodesLegal node isNode
      · unfold junctionType
        split_ifs <;> decide
    · obtain ⟨node, -, isMem⟩ := List.mem_flatMap.mp isMem
      exact texts_connectionElements_legal graph
        (fun link isLink => (linksLegal link isLink).1) isMem text isText

/-- The nodes that come back. -/
def Graph.returnedNodes : List Node := graph.sortedNodes.filterMap returnedNode

/-- The links that come back. -/
def Graph.returnedLinks : List Link :=
  graph.sortedLinks.filterMap (returnedLink graph.returnedNodes)

theorem returnedNode_id {node returned : Node} (isReturned : returnedNode node = some returned) :
    returned.id = node.id := by
  unfold returnedNode at isReturned
  by_cases isColon : node.id.toList.head? = some ':'
  · simp [isColon] at isReturned
  · rw [if_neg isColon] at isReturned
    cases isReturned
    rfl

theorem returnedLink_id {nodes : List Node} {link returned : Link}
    (isReturned : returnedLink nodes link = some returned) : returned.id = link.id := by
  unfold returnedLink at isReturned
  split_ifs at isReturned
  cases isReturned
  rfl

theorem sortedNodes_perm : graph.sortedNodes.Perm graph.nodes := List.perm_insertionSort _ _

theorem sortedLinks_perm : graph.sortedLinks.Perm graph.links := List.perm_insertionSort _ _

/-- The ids of what comes back are ids that were there, in their order. -/
theorem map_id_filterMap_sublist {nodes : List Node} :
    ((nodes.filterMap returnedNode).map Node.id).Sublist (nodes.map Node.id) := by
  induction nodes with
  | nil => exact List.Sublist.slnil
  | cons node _ ih =>
    rw [List.filterMap_cons]
    cases isReturned : returnedNode node with
    | none => exact ih.cons node.id
    | some =>
      rw [List.map_cons, List.map_cons, returnedNode_id isReturned]
      exact ih.cons_cons node.id

section

variable (accepted : graph.Accepted)

include accepted

theorem foldlM_junctions : ∃ messages skipped, (graph.sortedNodes.map junctionElement).foldlM
          (gather putNode (readJunction numeralText parseFloat)) ⟨[], [], 0⟩ =
        some ⟨graph.returnedNodes, messages, skipped⟩ := by
  have isRead : ∀ node ∈ graph.sortedNodes,
      readJunction numeralText parseFloat (junctionElement node) = match returnedNode node with
        | none => .skipped
        | some returned => .read returned [] := by
    intro node isNode
    exact readJunction_junctionElement
      (accepted.node_ids node ((sortedNodes_perm graph).subset isNode))
  have isValue : ∀ node ∈ graph.sortedNodes,
      (readJunction numeralText parseFloat (junctionElement node)).value? = returnedNode node := by
    intro node isNode
    rw [isRead node isNode]
    cases returnedNode node <;> rfl
  have neverRaises : ∀ node ∈ graph.sortedNodes,
      readJunction numeralText parseFloat (junctionElement node) ≠ .raises := by
    intro node isNode
    rw [isRead node isNode]
    cases returnedNode node <;> simp
  have isGathered := @foldlM_gather Node Node putNode
    (readJunction numeralText parseFloat) junctionElement graph.sortedNodes
    ⟨[], [], 0⟩ neverRaises
  rw [List.nil_append, List.filterMap_congr isValue] at isGathered
  refine isGathered fun earlier node later isSplit => ?_
  have nodup : ((earlier ++ node :: later).map Node.id).Nodup := by
    rw [isSplit]
    exact map_id_filterMap_sublist.nodup
      (((sortedNodes_perm graph).map Node.id).nodup_iff.mpr accepted.node_ids_nodup)
  rw [List.map_append, List.map_cons] at nodup
  exact putNode_of_not_mem fun isOld =>
    (List.nodup_append.mp nodup).2.2 _ isOld _ List.mem_cons_self rfl

theorem foldlM_edges : ∃ messages skipped, (graph.sortedLinks.map edgeElement).foldlM
          (gather putLink (readEdge numeralText parseFloat graph.returnedNodes)) ⟨[], [], 0⟩ =
        some ⟨graph.returnedLinks, messages, skipped⟩ := by
  have isRead : ∀ link ∈ graph.sortedLinks, (readEdge numeralText parseFloat graph.returnedNodes
          (edgeElement link)).value? = returnedLink graph.returnedNodes link ∧
        readEdge numeralText parseFloat graph.returnedNodes (edgeElement link) ≠ .raises := by
    intro link isLink
    have isOld : link ∈ graph.links := (sortedLinks_perm graph).subset isLink
    exact readEdge_edgeElement (accepted.link_ids link isOld).1 (accepted.lanes_pos link isOld)
  have isGathered := @foldlM_gather Link Link putLink
    (readEdge numeralText parseFloat graph.returnedNodes) edgeElement
    graph.sortedLinks ⟨[], [], 0⟩ (fun link isLink => (isRead link isLink).2)
    (fun _ _ _ _ => rfl)
  rwa [List.nil_append,
    List.filterMap_congr fun link isLink => (isRead link isLink).1] at isGathered

/-- A document of legal texts comes back as what its elements are read as. -/
theorem importSumo_exportSumo (legal : (exportSumo graph).texts.all isXmlText = true) :
    ∃ messages stats, importSumo numeralText parseFloat (exportSumo graph) =
        some (if graph.returnedLinks = [] then ⟨none, [.noUsableEdges], messages, none⟩ else
          ⟨some ⟨graph.returnedNodes.insertionSort fun first second =>
            first.id ≤ second.id, graph.returnedLinks⟩, [], messages, stats⟩) := by
  obtain ⟨junctions, edges⟩ := findall_exportSumo graph
  obtain ⟨_, _, nodesGathered⟩ :=
    @foldlM_junctions numeralText parseFloat graph accepted
  obtain ⟨_, _, linksGathered⟩ :=
    @foldlM_edges numeralText parseFloat graph accepted
  have isNet : ¬ (exportSumo graph).tag ≠ "net" := not_not.mpr rfl
  simp only [importSumo, parseXmlSafely, legal, if_true, isNet, if_false, junctions,
    edges, nodesGathered, linksGathered, Option.bind_some, Option.map_some]
  exact ⟨_, _, rfl⟩

end

end

end

/-! ## The round trip -/

/-- The import of the export of a graph succeeds, with the nodes and the links of
the graph. -/
def Restores (numeralText : Number → String) (parseFloat : String → Option Number)
    (graph : Graph) : Prop :=
  ∃ result, importSumo numeralText parseFloat (exportSumo graph) = some result ∧
    result.errors = [] ∧
    ∃ returned, result.graph = some returned ∧
      returned.nodes.Perm graph.nodes ∧ returned.links.Perm graph.links

/-- The graphs that the SUMO format can carry: their ids do not begin as those of
internal elements do, their texts are made of characters that XML allows, no gate
has a signal, and their numbers come back from ten significant digits. -/
structure Exportable (graph : Graph) : Prop where
  node_ids_external : ∀ node ∈ graph.nodes, node.id.toList.head? ≠ some ':'
  link_ids_external : ∀ link ∈ graph.links, link.id.toList.head? ≠ some ':'
  node_ids_legal : ∀ node ∈ graph.nodes, isXmlText node.id = true
  link_texts_legal : ∀ link ∈ graph.links, isXmlText link.id = true ∧ isXmlText link.name = true
  gates_unsignalled : ∀ node ∈ graph.nodes, node.kind = .gate → node.control = none
  positions_kept : ∀ node ∈ graph.nodes, node.x.printed.read = node.x ∧ node.y.printed.read = node.y
  lengths_kept : ∀ link ∈ graph.links, link.length.printed.read = link.length
  speeds_kept : ∀ link ∈ graph.links, link.speed.printed.read = link.speed

/-- A node comes back as it was when its id is not an internal one, its position
is kept and it is not a gate with a signal. -/
theorem returnedNode_eq_self_iff {node : Node} : returnedNode node = some node ↔
      node.id.toList.head? ≠ some ':' ∧ node.x.printed.read = node.x ∧
        node.y.printed.read = node.y ∧ (node.kind = .gate → node.control = none) := by
  obtain ⟨id, _, _, kind, _⟩ := node
  by_cases isColon : id.toList.head? = some ':'
  · simp [returnedNode, isColon]
  · by_cases isGate : kind = .gate <;> simp [returnedNode, isColon, isGate, eq_comm]

/-- A link comes back as it was when its id is not an internal one, its ends have
been read and its numbers are positive and kept. -/
theorem returnedLink_eq_self_iff {nodes : List Node} {link : Link} :
    returnedLink nodes link = some link ↔
      link.id.toList.head? ≠ some ':' ∧ link.from_ ∈ nodes.map Node.id ∧
        link.to_ ∈ nodes.map Node.id ∧ link.length.le 0 = false ∧
        link.speed.le 0 = false ∧ link.length.printed.read = link.length ∧
        link.speed.printed.read = link.speed := by
  obtain ⟨_, _, _, _, _, _, _⟩ := link
  unfold returnedLink
  split_ifs with isDropped
  · refine iff_of_false (by simp) ?_
    rintro ⟨notColon, fromMem, toMem, lengthPos, speedPos, isLength, isSpeed⟩
    obtain isColon | fromUnknown | toUnknown | notLong | notFast := isDropped
    · exact notColon isColon
    · exact fromUnknown fromMem
    · exact toUnknown toMem
    · exact Bool.false_ne_true (lengthPos.symm.trans (isLength ▸ notLong))
    · exact Bool.false_ne_true (speedPos.symm.trans (isSpeed ▸ notFast))
  · simp only [not_or, not_not, Bool.not_eq_true] at isDropped
    obtain ⟨notColon, fromMem, toMem, lengthPos, speedPos⟩ := isDropped
    simp only [Option.some.injEq, Link.mk.injEq, true_and, and_true]
    constructor
    · rintro ⟨isLength, isSpeed⟩
      rw [isLength] at lengthPos
      rw [isSpeed] at speedPos
      exact ⟨notColon, fromMem, toMem, lengthPos, speedPos, isLength, isSpeed⟩
    · rintro ⟨-, -, -, -, -, isLength, isSpeed⟩
      exact ⟨isLength, isSpeed⟩

/-- What comes back of a link depends on the ids of the nodes only. -/
theorem returnedLink_congr {nodes others : List Node} (isPerm : nodes.Perm others) :
    returnedLink nodes = returnedLink others := by
  funext link
  simp only [returnedLink, (isPerm.map Node.id).mem_iff]

theorem returned_perm_iff {graph : Graph} (accepted : graph.Accepted) :
    graph.returnedNodes.Perm graph.nodes ∧ graph.returnedLinks.Perm graph.links ↔
      (∀ node ∈ graph.nodes, returnedNode node = some node) ∧
        ∀ link ∈ graph.links, returnedLink graph.nodes link = some link := by
  have nodesIff : graph.returnedNodes.Perm graph.nodes ↔
      ∀ node ∈ graph.nodes, returnedNode node = some node := by
    unfold Graph.returnedNodes
    rw [((sortedNodes_perm graph).filterMap returnedNode).congr_left]
    exact Folds.filterMap_perm_iff_of_keys accepted.node_ids_nodup
      fun node _ returned isReturned => returnedNode_id isReturned
  rw [← nodesIff]
  refine and_congr_right fun isPerm => ?_
  unfold Graph.returnedLinks
  rw [returnedLink_congr isPerm, ((sortedLinks_perm graph).filterMap _).congr_left]
  exact Folds.filterMap_perm_iff_of_keys accepted.link_ids_nodup
    fun link _ returned isReturned => returnedLink_id isReturned

theorem restores_iff_returned (numeralText : Number → String)
    (parseFloat : String → Option Number) {graph : Graph} (accepted : graph.Accepted) :
    Restores numeralText parseFloat graph ↔ (exportSumo graph).texts.all isXmlText = true ∧
        graph.returnedNodes.Perm graph.nodes ∧ graph.returnedLinks.Perm graph.links := by
  by_cases legal : (exportSumo graph).texts.all isXmlText = true
  · obtain ⟨_, _, isResult⟩ :=
      @importSumo_exportSumo numeralText parseFloat graph accepted legal
    unfold Restores
    rw [isResult]
    have sortedPerm := List.perm_insertionSort
      (fun first second : Node => first.id ≤ second.id) graph.returnedNodes
    constructor
    · rintro ⟨result, isSome, noErrors, returned, isReturned, nodesPerm, linksPerm⟩
      cases isSome
      split_ifs at noErrors isReturned with noLinks
      cases isReturned
      exact ⟨legal, sortedPerm.symm.trans nodesPerm, linksPerm⟩
    · rintro ⟨-, nodesPerm, linksPerm⟩
      have someLink : graph.returnedLinks ≠ [] := by
        intro noLinks
        rw [noLinks] at linksPerm
        exact accepted.links_ne_nil linksPerm.symm.eq_nil
      rw [if_neg someLink]
      exact ⟨_, rfl, rfl, _, rfl, sortedPerm.trans nodesPerm, linksPerm⟩
  · refine iff_of_false ?_ fun restored => legal restored.1
    rintro ⟨result, isResult, noErrors, -⟩
    simp only [importSumo, parseXmlSafely, legal] at isResult
    cases isResult
    cases noErrors

/-- **The import of an export gives the graph back** for the graphs that the format
can carry, and for no other accepted graph. -/
theorem restores_iff_exportable (numeralText : Number → String)
    (parseFloat : String → Option Number) {graph : Graph} (accepted : graph.Accepted) :
    Restores numeralText parseFloat graph ↔ Exportable graph := by
  rw [restores_iff_returned numeralText parseFloat accepted,
    texts_exportSumo_legal graph accepted, returned_perm_iff accepted]
  simp only [returnedNode_eq_self_iff, returnedLink_eq_self_iff]
  constructor
  · rintro ⟨⟨nodesLegal, linksLegal⟩, nodesKept, linksKept⟩
    exact
      { node_ids_external := fun node isNode => (nodesKept node isNode).1
        link_ids_external := fun link isLink => (linksKept link isLink).1
        node_ids_legal := nodesLegal
        link_texts_legal := linksLegal
        gates_unsignalled := fun node isNode => (nodesKept node isNode).2.2.2
        positions_kept := fun node isNode =>
          ⟨(nodesKept node isNode).2.1, (nodesKept node isNode).2.2.1⟩
        lengths_kept := fun link isLink => (linksKept link isLink).2.2.2.2.2.1
        speeds_kept := fun link isLink => (linksKept link isLink).2.2.2.2.2.2 }
  · intro exportable
    refine ⟨⟨exportable.node_ids_legal, exportable.link_texts_legal⟩,
      fun node isNode => ?_, fun link isLink => ?_⟩
    · exact ⟨exportable.node_ids_external node isNode, (exportable.positions_kept node isNode).1,
        (exportable.positions_kept node isNode).2,
        exportable.gates_unsignalled node isNode⟩
    · exact ⟨exportable.link_ids_external link isLink,
        accepted.from_mem link isLink, accepted.to_mem link isLink,
        accepted.length_pos link isLink, accepted.speed_pos link isLink,
        exportable.lengths_kept link isLink, exportable.speeds_kept link isLink⟩

/-- A road of 100 m between two junctions, the second with a signal. -/
def plainGraph : Graph where
  nodes := [⟨"a", .finite 0, .finite 0, .junction, none⟩,
      ⟨"b", .finite 100, .finite 0, .junction, some .signal⟩]
  links := [⟨"ab", "a", "b", .finite 100, 1, .finite 10, ""⟩]

theorem plainGraph_accepted : plainGraph.Accepted := by constructor <;> decide

/-- The road is restored. -/
theorem plainGraph_restored : Restores (fun _ => "") (fun _ => none) plainGraph := by
  refine (restores_iff_exportable _ _ plainGraph_accepted).mpr ?_
  have zeroKept : (Number.finite 0).printed.read = .finite 0 := by decide
  have lengthKept : (Number.finite 100).printed.read = .finite 100 := by decide +kernel
  have speedKept : (Number.finite 10).printed.read = .finite 10 := by decide +kernel
  constructor <;> simp [plainGraph, zeroKept, lengthKept, speedKept]
  · decide
  · decide

/-- The same road to a gate with a signal. -/
def signalledGate : Graph where
  nodes := [⟨"a", .finite 0, .finite 0, .junction, none⟩,
      ⟨"b", .finite 100, .finite 0, .gate, some .signal⟩]
  links := [⟨"ab", "a", "b", .finite 100, 1, .finite 10, ""⟩]

/-- The signal of a gate does not come back. -/
theorem signalledGate_not_restored : signalledGate.Accepted ∧
      ¬ Restores (fun _ => "") (fun _ => none) signalledGate := by
  have accepted : signalledGate.Accepted := by constructor <;> decide
  refine ⟨accepted, fun restored => ?_⟩
  have isReturned := (returned_perm_iff accepted).mp
    ((restores_iff_returned _ _ accepted).mp restored).2
  have isGate := isReturned.1 ⟨"b", .finite 100, .finite 0, .gate, some .signal⟩ (by decide)
  exact absurd ((returnedNode_eq_self_iff.mp isGate).2.2.2 rfl) (by decide)

end Sumo
end UrbanFlow.Networks
