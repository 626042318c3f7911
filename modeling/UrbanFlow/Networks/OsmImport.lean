import UrbanFlow.Library.Contraction
import UrbanFlow.Metering.PyValue
import UrbanFlow.Networks.Graph

/-!
# OSM import

`import_osm` on the elements of a file in either format. Coordinates and lengths
are numbers of a field with an order and a floor, distances between coordinates a
parameter; `float` of a text gives one of these numbers or fails. The projection to
local metres and the statistics of an import are left out.
-/

namespace UrbanFlow.Networks
namespace Osm

/-- The tags of an element; a later one of the same key replaces an earlier one. -/
abbrev Tags := List (String × Option String)

/-- `tags.get(key)`. -/
def tag (tags : Tags) (key : String) : Option String := (tags.reverse.lookup key).join

/-- A node of a file. -/
structure OsmNode (K : Type) where
  lat : K
  lon : K
  tags : Tags

/-- A way of a file. -/
structure Way where
  id : String
  nds : List String
  tags : Tags
  deriving DecidableEq

/-- An element of a file, with coordinates as the format has them. -/
inductive OsmElement (Coordinate : Type)
  | node (id : String) (lat lon : Option Coordinate) (tags : Tags)
  | way (way : Way)
  | other

/-- A file: XML with the name of its root element, if it is well formed, or
Overpass JSON, if it has a list of elements. -/
inductive OsmFile (K : Type)
  | xml (root : Option (String × List (OsmElement String)))
  | json (elements : Option (List (OsmElement K)))

structure Contents (K : Type) where
  nodes : List (String × OsmNode K)
  ways : List Way

/-- The errors of an import. -/
inductive OsmError
  | notWellFormed
  | notOsm (root : String)
  | noElements
  | notNumber
  | noRoads
  deriving DecidableEq

section

variable {K : Type}

/-- `_read_xml` and `_read_json` on the elements of a file: a node needs both of its
coordinates. -/
def readElements {Coordinate : Type} (present : Coordinate → Bool) (number : Coordinate → Option K)
    (elements : List (OsmElement Coordinate)) : Except OsmError (Contents K) :=
  elements.foldlM (fun contents element =>
      match element with
      | .node id lat lon tags =>
        match lat.filter present, lon.filter present with
        | some lat, some lon =>
          match number lat, number lon with
          | some lat, some lon =>
            .ok { contents with
              nodes := contents.nodes ++ [(id, ⟨lat, lon, tags⟩)] }
          | _, _ => .error .notNumber
        | _, _ => .ok contents
      | .way way => .ok { contents with ways := contents.ways ++ [way] }
      | .other => .ok contents)
    ⟨[], []⟩

def readFile (parseFloat : String → Option K) : OsmFile K → Except OsmError (Contents K)
  | .xml none => .error .notWellFormed
  | .xml (some (root, elements)) =>
    if root ≠ "osm" then .error (.notOsm root)
    else readElements (fun text => text ≠ "") parseFloat elements
  | .json none => .error .noElements
  | .json (some elements) => readElements (fun _ => true) some elements

section

variable (contents : Contents K) (id : String)

/-- `nodes[id]`, if there is one. -/
def Contents.node : Option (OsmNode K) := contents.nodes.reverse.lookup id

/-- `nodes[id][2].get("highway") == "traffic_signals"`. -/
def Contents.isSignal : Bool :=
  (contents.node id).any fun node => tag node.tags "highway" = some "traffic_signals"

end

end

/-- `DRIVABLE`: the default speed, in hundredths of a metre per second, and the
default lanes of each direction. -/
def drivable : List (String × (Nat × Nat)) :=
  [("motorway", (2778, 2)), ("motorway_link", (1667, 1)), ("trunk", (2222, 2)),
    ("trunk_link", (1389, 1)), ("primary", (1667, 2)), ("primary_link", (1111, 1)),
    ("secondary", (1389, 1)), ("secondary_link", (1111, 1)), ("tertiary", (1389, 1)),
    ("tertiary_link", (1111, 1)), ("unclassified", (1111, 1)),
    ("residential", (833, 1)), ("living_street", (417, 1)), ("service", (556, 1))]

namespace Way

variable (way : Way)

/-- The default speed and lanes of a way that can be driven. -/
def defaults : Option (Nat × Nat) :=
  (tag way.tags "highway").bind fun highway => drivable.lookup highway

/-- Why a way is not kept. -/
def skipReason : Option String :=
  let highway := tag way.tags "highway"
  if way.defaults.isNone then some (match highway with
      | none => "not a road"
      | some name => if name = "" then "not a road" else name)
  else if tag way.tags "access" = some "no" ∨ tag way.tags "access" = some "private" ∨
      tag way.tags "motor_vehicle" = some "no" then some "no motor access"
  else if way.nds.length < 2 then some "fewer than two nodes"
  else none

/-- The way may be driven backwards. -/
def backward : Bool :=
  let oneway := tag way.tags "oneway"
  !(decide (oneway = some "yes" ∨ oneway = some "true" ∨ oneway = some "1") ||
    decide (tag way.tags "junction" = some "roundabout") ||
    (decide (tag way.tags "highway" = some "motorway") && decide (oneway ≠ some "no")))

/-- The way may be driven forward. -/
def forward : Bool := !way.backward || decide (tag way.tags "oneway" ≠ some "-1")

/-- The lanes of each direction. -/
def lanes : Nat :=
  let default := (way.defaults.getD (0, 0)).2
  let digits := ((tag way.tags "lanes").getD "").toList
  let lanes := if digits ≠ [] ∧ digits.all Char.isDigit then
      let total := (String.ofList digits).toNat?.getD 0
      if way.forward ∧ way.backward then max 1 (total / 2) else total
    else default
  max 1 (min lanes 8)

end Way

/-- `GraphNode` of an import. -/
structure OsmGraphNode (K : Type) where
  id : String
  kind : NodeKind
  control : Option NodeControl
  lat : K
  lon : K

/-- `GraphLink` of an import. -/
structure OsmLink (K : Type) where
  id : String
  from_ : String
  to_ : String
  length : K
  lanes : Nat
  speed : K
  name : String

/-- `RoadGraph` of an import. -/
structure OsmGraph (K : Type) where
  nodes : List (OsmGraphNode K)
  links : List (OsmLink K)

/-- The notes of an import. -/
inductive OsmMessage
  | wayMissingNodes (way : String) (count : Nat)
  | segmentSkipped (way : String) (segment : Nat)
  | skippedWays (reasons : List String)
  deriving DecidableEq

/-- `ImportResult`. -/
structure OsmResult (K : Type) where
  graph : Option (OsmGraph K)
  errors : List OsmError
  messages : List OsmMessage

section

variable {K : Type} [Field K] [LinearOrder K] [FloorRing K]

def roundEven (number : K) : Int :=
  let below := ⌊number⌋
  let rest := number - below
  if rest < 1 / 2 then below
  else if 1 / 2 < rest then below + 1
  else if below % 2 = 0 then below else below + 1

/-- `round(number, 3)`. -/
def roundMillimetres (number : K) : K := (roundEven (number * 1000) : K) / 1000

def parseSpeed (parseFloat : String → Option K) (raw : Option String) : Option K := match raw with
  | none => none
  | some raw =>
    if raw = "" then none
    else
      let text := pyLower (pyStrip raw.toList)
      let number := fun digits : List Char => parseFloat (String.ofList digits)
      if "mph".toList <:+ text then
        (number (text.take (text.length - 3))).map fun speed => speed * (44704 / 100000)
      else if "km/h".toList <:+ text then
        (number (text.take (text.length - 4))).map fun speed => speed / (36 / 10)
      else (number text).map fun speed => speed / (36 / 10)

/-- The speed of a way, between 1 and 45 metres per second. -/
def Way.speed (way : Way) (parseFloat : String → Option K) : K :=
  let default : K := ((way.defaults.getD (0, 0)).1 : K) / 100
  let speed := match parseSpeed parseFloat (tag way.tags "maxspeed") with
    | none => default
    | some speed => if speed = 0 then default else speed
  min (max speed 1) 45

section

variable (contents : Contents K)

def keptWays : List Way := contents.ways.filter fun way => way.skipReason.isNone

/-- The kept ways whose nodes are all in the file. -/
def usableWays : List Way := (keptWays contents).filter fun way =>
    way.nds.all fun id => (contents.node id).isSome

/-- `usage`: how many of the ways use a node. -/
def usage (ways : List Way) (id : String) : Nat := ways.countP fun way => id ∈ way.nds

/-- A way is cut at a node in its middle. -/
def isCut (id : String) : Bool :=
  decide (2 ≤ usage (usableWays contents) id) || contents.isSignal id

end

/-- `cuts`: where a way is cut. -/
def cuts (cutAt : String → Bool) (nds : List String) : List Nat :=
  [0] ++ ((List.range' 1 (nds.length - 2)).filter fun index =>
    (nds[index]?).any cutAt) ++ [nds.length - 1]

/-- A part of a way between two cuts. -/
structure Piece where
  way : Way
  segment : Nat
  start : Nat
  finish : Nat
  deriving DecidableEq

/-- `nds[a : b + 1]`. -/
def Piece.nodes (piece : Piece) : List String :=
  (piece.way.nds.drop piece.start).take (piece.finish + 1 - piece.start)

/-- The parts of a way. -/
def piecesOf (cutAt : String → Bool) (way : Way) : List Piece :=
  let cuts := cuts cutAt way.nds
  (cuts.zip cuts.tail).zipIdx.map fun entry =>
    { way := way
      segment := entry.2
      start := entry.1.1
      finish := entry.1.2 }

/-- The parts of all ways. -/
def pieces (contents : Contents K) : List Piece :=
  (usableWays contents).flatMap (piecesOf (isCut contents))

variable (distance : K × K → K × K → K) (parseFloat : String → Option K)

section

variable (contents : Contents K)

/-- The distance between two nodes of a file. -/
def nodeDistance (first second : String) : K := match contents.node first, contents.node second with
  | some first, some second => distance (first.lat, first.lon) (second.lat, second.lon)
  | _, _ => 0

section

variable (piece : Piece)

/-- The length of a part. -/
def Piece.length : K := Contraction.chainLength (nodeDistance distance contents) piece.nodes

/-- A part that is skipped: it has no length or is a closed loop. -/
def Piece.isSkipped : Bool :=
  decide (piece.length distance contents ≤ 0) ||
    decide (piece.nodes.head? = piece.nodes.getLast?)

/-- The links of a part from its first node to its last. -/
def Piece.links (first last : String) : List (OsmLink K) :=
  let base := piece.way.id ++ ":" ++ toString piece.segment
  let link : OsmLink K :=
    { id := base
      from_ := first
      to_ := last
      length := roundMillimetres (piece.length distance contents)
      lanes := piece.way.lanes
      speed := piece.way.speed parseFloat
      name := (tag piece.way.tags "name").getD "" }
  (if piece.way.forward then [link] else []) ++ (if piece.way.backward then
      [{ link with id := base ++ "r", from_ := last, to_ := first }] else [])

end

def isGraphId (id : String) : Bool := 1 ≤ id.length && id.length ≤ 64

/-- `node`: a node is put in the graph, unless it is there; `none` where it
raises. -/
def addNode (nodes : List (OsmGraphNode K)) (id : String)
    (gate : Bool) : Option (List (OsmGraphNode K)) :=
  if id ∈ nodes.map OsmGraphNode.id then some nodes
  else match contents.node id with
    | none => none
    | some node =>
      if isGraphId id then some (nodes ++ [
           { id := id
             kind := if gate then .gate else .junction
             control := if contents.isSignal id then some .signal else none
             lat := node.lat
             lon := node.lon }])
      else none

end

/-- `GraphLink` accepts the fields of a link. -/
def OsmLink.isAccepted (link : OsmLink K) : Bool :=
  isGraphId link.id && isGraphId link.from_ && isGraphId link.to_ && decide (0 < link.length)

/-- What an import has gathered. -/
structure Gathered (K : Type) where
  nodes : List (OsmGraphNode K)
  links : List (OsmLink K)
  messages : List OsmMessage

section

variable (contents : Contents K)

/-- One part of a way is imported; `none` where it raises. -/
def addPiece (gathered : Gathered K) (piece : Piece) : Option (Gathered K) :=
  match piece.nodes.head?, piece.nodes.getLast? with
  | some first, some last =>
    if piece.isSkipped distance contents then
      some { gathered with
        messages := gathered.messages ++ [.segmentSkipped piece.way.id piece.segment] }
    else
      let used := usage (usableWays contents)
      (addNode contents gathered.nodes first
        (decide (used first = 1) && decide (piece.start = 0))).bind fun nodes =>
      (addNode contents nodes last (decide (used last = 1) &&
          decide (piece.finish = piece.way.nds.length - 1))).bind fun nodes =>
      let links := piece.links distance parseFloat contents first last
      if links.all OsmLink.isAccepted then
        some { gathered with nodes := nodes, links := gathered.links ++ links }
      else none
  | _, _ => none

/-- The notes on ways that are left out. -/
def wayMessages : List OsmMessage := (keptWays contents).filterMap fun way =>
    let missing := way.nds.filter fun id => (contents.node id).isNone
    if missing = [] then none else some (.wayMissingNodes way.id missing.length)

/-- The note on ways that are not kept. -/
def skippedMessages : List OsmMessage :=
  let reasons := contents.ways.filterMap Way.skipReason
  if reasons = [] then [] else [.skippedWays (reasons.insertionSort (· ≤ ·))]

end

/-- `import_osm`; `none` where it raises. -/
def importOsm (file : OsmFile K) : Option (OsmResult K) := match readFile parseFloat file with
  | .error error => some ⟨none, [error], []⟩
  | .ok contents =>
    if usableWays contents = [] then
      some ⟨none, [.noRoads], wayMessages contents ++ skippedMessages contents⟩
    else ((pieces contents).foldlM (addPiece distance parseFloat contents)
        ⟨[], [], wayMessages contents⟩).map fun gathered =>
        { graph := some
            { nodes := gathered.nodes.insertionSort fun first second =>
                first.id ≤ second.id
              links := gathered.links }
          errors := []
          messages := gathered.messages ++ skippedMessages contents }

end

end Osm
end UrbanFlow.Networks
