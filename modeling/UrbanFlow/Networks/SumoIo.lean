import UrbanFlow.Networks.Graph
import Mathlib.Data.Int.Log

/-!
# SUMO import and export

`import_sumo` and `export_sumo` on XML documents as trees of elements. A text is
its characters; the text a number is printed to is the number it writes, at most
ten significant digits of it, and reading it gives the nearest double. The parser
refuses a character that XML does not allow. What no reader of a document looks
at (the location, lane ids and shapes, incoming lanes) is left out.
-/

namespace UrbanFlow.Networks
namespace Sumo

/-- A `float`. -/
inductive Number
  | finite (value : ℚ)
  | infinity (negative : Bool)
  | nan
  deriving DecidableEq

namespace Number

/-- `number <= bound`. -/
def le (bound : ℚ) : Number → Bool
  | .finite value => decide (value ≤ bound)
  | .infinity negative => negative
  | .nan => false

/-- `number > bound`. -/
def gt (bound : ℚ) : Number → Bool
  | .finite value => decide (bound < value)
  | .infinity negative => !negative
  | .nan => false

end Number

/-- The nearest double of a number, half to even. -/
def toDouble (number : ℚ) : Number := if number = 0 then .finite 0 else
    let exponent := max (Int.log 2 |number| - 52) (-1074)
    let value : ℚ := (roundHalfEven (|number| / (2 : ℚ) ^ exponent) : ℚ) * (2 : ℚ) ^ exponent
    if 2 ^ 1024 ≤ value then .infinity (decide (number < 0))
    else .finite (if number < 0 then -value else value)

/-- A number rounded to ten significant digits, half to even. -/
def tenDigits (number : ℚ) : ℚ := if number = 0 then 0 else
    let exponent := Int.log 10 |number| - 9
    let value : ℚ := (roundHalfEven (|number| / (10 : ℚ) ^ exponent) : ℚ) * (10 : ℚ) ^ exponent
    if number < 0 then -value else value

/-- The number that `format(value, ".10g")` writes. -/
def Number.printed : Number → Number
  | .finite value => .finite (tenDigits value)
  | number => number

/-- `float` of the text of a number. -/
def Number.read : Number → Number
  | .finite value => toDouble value
  | number => number

inductive AttributeValue
  | text (value : String)
  | numeral (number : Number)
  deriving DecidableEq

def num (value : Number) : AttributeValue := .numeral value.printed

inductive Element
  | mk (tag : String) (attributes : List (String × AttributeValue)) (children : List Element)

namespace Element

/-- The name of an element. -/
def tag : Element → String
  | .mk tag _ _ => tag

def attributes : Element → List (String × AttributeValue)
  | .mk _ attributes _ => attributes

def children : Element → List Element
  | .mk _ _ children => children

/-- `element.get(key)`. -/
def get (element : Element) (key : String) : Option AttributeValue := element.attributes.lookup key

/-- `element.findall(tag)`. -/
def findall (element : Element) (tag : String) : List Element :=
  element.children.filter fun child => child.tag = tag

end Element

/-- A character that XML allows. -/
def isXmlChar (symbol : Char) : Bool :=
  let code := symbol.toNat
  code = 0x9 || code = 0xA || code = 0xD || (0x20 ≤ code && code ≤ 0xD7FF) ||
    (0xE000 ≤ code && code ≤ 0xFFFD) || 0x10000 ≤ code

/-- A text of such characters. -/
def isXmlText (text : String) : Bool := text.toList.all isXmlChar

/-- The texts of some attributes. -/
def attributeTexts (attributes : List (String × AttributeValue)) : List String :=
  attributes.filterMap fun entry =>
    match entry.2 with
    | .text value => some value
    | .numeral _ => none

def Element.texts : Element → List String
  | .mk _ attributes children => attributeTexts attributes ++ childTexts children
where
  /-- The attribute texts of some elements. -/
  childTexts : List Element → List String
    | [] => []
    | child :: children => child.texts ++ childTexts children

/-- `GraphNode`. -/
structure Node where
  id : String
  x : Number
  y : Number
  kind : NodeKind
  control : Option NodeControl
  deriving DecidableEq

/-- `GraphLink`. -/
structure Link where
  id : String
  from_ : String
  to_ : String
  length : Number
  lanes : Nat
  speed : Number
  name : String
  deriving DecidableEq

/-- `RoadGraph`. -/
structure Graph where
  nodes : List Node
  links : List Link
  deriving DecidableEq

/-- An id has from one to 64 characters. -/
def isId (id : String) : Bool := 1 ≤ id.length && id.length ≤ 64

/-- `validate_graph` accepts a graph: its fields are in their ranges and no error
is reported. -/
structure Graph.Accepted (graph : Graph) : Prop where
  node_ids : ∀ node ∈ graph.nodes, isId node.id
  link_ids : ∀ link ∈ graph.links, isId link.id ∧ isId link.from_ ∧ isId link.to_
  length_pos : ∀ link ∈ graph.links, link.length.le 0 = false
  lanes_pos : ∀ link ∈ graph.links, 1 ≤ link.lanes
  speed_pos : ∀ link ∈ graph.links, link.speed.le 0 = false
  nodes_ne_nil : graph.nodes ≠ []
  nodes_le : graph.nodes.length ≤ maxNodes
  links_ne_nil : graph.links ≠ []
  node_ids_nodup : (graph.nodes.map Node.id).Nodup
  link_ids_nodup : (graph.links.map Link.id).Nodup
  from_mem : ∀ link ∈ graph.links, link.from_ ∈ graph.nodes.map Node.id
  to_mem : ∀ link ∈ graph.links, link.to_ ∈ graph.nodes.map Node.id
  from_ne_to : ∀ link ∈ graph.links, link.from_ ≠ link.to_
  length_le : ∀ link ∈ graph.links, link.length.gt maxLinkMeters = false
  lanes_le : ∀ link ∈ graph.links, link.lanes ≤ maxLanes
  speed_le : ∀ link ∈ graph.links, link.speed.gt maxSpeed = false

namespace Graph

/-- The nodes in the order of their ids. -/
def sortedNodes (graph : Graph) : List Node :=
  graph.nodes.insertionSort fun first second => first.id ≤ second.id

/-- The links in the order of their ids. -/
def sortedLinks (graph : Graph) : List Link :=
  graph.links.insertionSort fun first second => first.id ≤ second.id

end Graph

def junctionType (node : Node) : String := if node.kind = .gate then "dead_end"
  else if node.control = some .signal then "traffic_light"
  else "priority"

/-- The `junction` of a node. -/
def junctionElement (node : Node) : Element :=
  .mk "junction" [("id", .text node.id), ("type", .text (junctionType node)),
      ("x", num node.x), ("y", num node.y)]
    []

/-- The `edge` of a link, with a `lane` for each of its lanes. -/
def edgeElement (link : Link) : Element :=
  .mk "edge" ([("id", .text link.id), ("from", .text link.from_), ("to", .text link.to_),
      ("priority", .text "-1")] ++
      (if link.name = "" then [] else [("name", .text link.name)]))
    (List.replicate link.lanes
      (.mk "lane" [("speed", num link.speed), ("length", num link.length)] []))

/-- The `connection`s of a node: every way on, without a U-turn when there is
another way. -/
def connectionElements (graph : Graph) (node : Node) : List Element :=
  let incoming : List Link := graph.sortedLinks.filter fun link => link.to_ = node.id
  let outgoing : List Link := graph.sortedLinks.filter fun link => link.from_ = node.id
  incoming.flatMap fun inLink =>
    outgoing.filterMap fun outLink =>
      if outLink.to_ = inLink.from_ ∧ 1 < outgoing.length then none
      else some (.mk "connection" [("from", .text inLink.id), ("to", .text outLink.id),
            ("fromLane", .text "0"), ("toLane", .text "0")] [])

def exportSumo (graph : Graph) : Element :=
  .mk "net" [("version", .text "1.16")] (graph.sortedLinks.map edgeElement ++
      graph.sortedNodes.map junctionElement ++
      graph.sortedNodes.flatMap (connectionElements graph))

inductive ImportError
  | notWellFormed
  | notNet (tag : String)
  | noUsableEdges
  deriving DecidableEq

/-- The notes of an import. -/
inductive Message
  | junctionNotNumbers (id : String)
  | junctionType (id type : String)
  | edgeUnknownJunction (id : String)
  | edgeWithoutLanes (id : String)
  | edgeNotNumbers (id : String)
  | edgeNotPositive (id : String)
  | connections (count : Nat)
  | trafficLightPrograms (count : Nat)
  | roundabouts
  | skipped (edges junctions : Nat)
  deriving DecidableEq

/-- `ImportResult`; `stats` are the nodes, links and connections. -/
structure ImportResult where
  graph : Option Graph
  errors : List ImportError
  messages : List Message
  stats : Option (Nat × Nat × Nat)

/-- `parse_xml_safely` of the text of a document. -/
def parseXmlSafely (document : Element) : Except ImportError Element :=
  if document.texts.all isXmlText then .ok document else .error .notWellFormed

/-- What becomes of an element: it is skipped, noted, or read, with a note or
without. `raises` stands for the `ValidationError` of a field out of range. -/
inductive Reading (Value : Type)
  | skipped
  | noted (message : Message)
  | read (value : Value) (messages : List Message)
  | raises

variable (numeralText : Number → String) (parseFloat : String → Option Number)

def AttributeValue.asText : AttributeValue → String
  | .text value => value
  | .numeral number => numeralText number

/-- `float` of an attribute; `none` stands for the `ValueError`. -/
def AttributeValue.asNumber : AttributeValue → Option Number
  | .text value => parseFloat value
  | .numeral number => some number.read

section

variable (element : Element) (key default : String)

/-- `element.get(key, default)`. -/
def Element.getText : String :=
  ((element.get key).map (AttributeValue.asText numeralText)).getD default

/-- `float(element.get(key, default))`. -/
def Element.getNumber : Option Number :=
  ((element.get key).getD (.text default)).asNumber parseFloat

end

/-- A `junction` of the document. -/
def readJunction (element : Element) : Reading Node :=
  let id := element.getText numeralText "id" ""
  let type := element.getText numeralText "type" "priority"
  if id = "" ∨ id.toList.head? = some ':' ∨ type = "internal" then .skipped
  else match element.getNumber parseFloat "x" "0", element.getNumber parseFloat "y" "0" with
    | some x, some y =>
      if isId id then .read
          { id := id
            x := x
            y := y
            kind := if type = "dead_end" then .gate else .junction
            control := if "traffic_light".toList <+: type.toList then some .signal
              else none }
          (if type ∈ ["priority", "dead_end", "traffic_light", "traffic_light_unregulated"] then []
            else [.junctionType id type])
      else .raises
    | _, _ => .noted (.junctionNotNumbers id)

/-- An `edge` of the document. -/
def readEdge (nodes : List Node) (element : Element) : Reading Link :=
  let id := element.getText numeralText "id" ""
  if element.get "function" = some (.text "internal") ∨ id.toList.head? = some ':' then .skipped
  else match element.get "from", element.get "to" with
    | some from_, some to_ =>
      let a := from_.asText numeralText
      let b := to_.asText numeralText
      if a ∉ nodes.map Node.id ∨ b ∉ nodes.map Node.id then .noted (.edgeUnknownJunction id)
      else match element.findall "lane" with
        | [] => .noted (.edgeWithoutLanes id)
        | lane :: lanes =>
          match lane.getNumber parseFloat "length" "0",
              lane.getNumber parseFloat "speed" "13.89" with
          | some length, some speed =>
            if length.le 0 ∨ speed.le 0 then .noted (.edgeNotPositive id)
            else if isId id then .read
                { id := id
                  from_ := a
                  to_ := b
                  length := length
                  lanes := (lane :: lanes).length
                  speed := speed
                  name := element.getText numeralText "name" "" }
                []
            else .raises
          | _, _ => .noted (.edgeNotNumbers id)
    | _, _ => .noted (.edgeUnknownJunction id)

/-- What has been read of the elements of one kind. -/
structure Gathered (Value : Type) where
  values : List Value
  messages : List Message
  skipped : Nat

/-- `nodes[id] = node`: a node of the same id is replaced in its place. -/
def putNode (nodes : List Node) (node : Node) : List Node := if node.id ∈ nodes.map Node.id then
    nodes.map fun other => if other.id = node.id then node else other
  else nodes ++ [node]

/-- `links.append(link)`. -/
def putLink (links : List Link) (link : Link) : List Link := links ++ [link]

/-- One element of a kind is read; `none` where it raises. -/
def gather {Value : Type} (put : List Value → Value → List Value) (read : Element → Reading Value)
    (gathered : Gathered Value) (element : Element) : Option (Gathered Value) :=
  match read element with
  | .skipped => some { gathered with skipped := gathered.skipped + 1 }
  | .noted message => some { gathered with messages := gathered.messages ++ [message] }
  | .read value messages =>
    some { gathered with
      values := put gathered.values value
      messages := gathered.messages ++ messages }
  | .raises => none

/-- `import_sumo`; `none` where it raises. -/
def importSumo (document : Element) : Option ImportResult := match parseXmlSafely document with
  | .error error => some ⟨none, [error], [], none⟩
  | .ok root =>
    if root.tag ≠ "net" then some ⟨none, [.notNet root.tag], [], none⟩
    else ((root.findall "junction").foldlM (gather putNode (readJunction numeralText parseFloat))
        ⟨[], [], 0⟩).bind fun nodes =>
      ((root.findall "edge").foldlM (gather putLink (readEdge numeralText parseFloat nodes.values))
        ⟨[], [], 0⟩).map fun links =>
      let connections := (root.findall "connection").length
      let programs := (root.findall "tlLogic").length
      let messages := nodes.messages ++ links.messages ++
        (if connections = 0 then [] else [.connections connections]) ++
        (if programs = 0 then [] else [.trafficLightPrograms programs]) ++
        (if (root.findall "roundabout").isEmpty then [] else [.roundabouts]) ++
        (if links.skipped + nodes.skipped = 0 then [] else [.skipped links.skipped nodes.skipped])
      if links.values = [] then ⟨none, [.noUsableEdges], messages, none⟩
      else
        { graph := some
            { nodes := nodes.values.insertionSort fun first second =>
                first.id ≤ second.id
              links := links.values }
          errors := []
          messages := messages
          stats := some (nodes.values.length, links.values.length, connections) }

end Sumo
end UrbanFlow.Networks
