import Mathlib.Analysis.Real.Pi.Bounds
import UrbanFlow.Networks.OsmDrives

/-!
# Imported graphs keep what can be driven

The import of a file with great circles as distances. Ways that meet themselves are
cut there only if another way or a signal is there too; parts without a length and
closed loops are skipped.
-/

namespace UrbanFlow.Networks
namespace Osm

section

variable {K : Type} [Field K] [LinearOrder K] [IsStrictOrderedRing K] [FloorRing K]

theorem sub_half_le_roundEven (number : K) : number - 1 / 2 ≤ roundEven number := by
  have below := Int.lt_floor_add_one number
  simp only [roundEven]
  split_ifs <;> push_cast <;> linarith [Int.floor_le number]

/-- A length of a metre or more is not rounded to nothing. -/
theorem roundMillimetres_pos {number : K} (isLong : 1 ≤ number) : 0 < roundMillimetres number := by
  have rounded := sub_half_le_roundEven (number * 1000)
  refine div_pos ?_ (by norm_num)
  linarith

end

/-- `EARTH_RADIUS`, in metres. -/
def earthRadius : ℝ := 6371000

noncomputable def radians (degrees : ℝ) : ℝ := degrees * (Real.pi / 180)

theorem atLeastTwo_two : Nat.AtLeastTwo 2 := ⟨le_rfl⟩

section

attribute [local instance] atLeastTwo_two

noncomputable def haversine (a b : ℝ × ℝ) : ℝ :=
  let la1 := radians a.1
  let lo1 := radians a.2
  let la2 := radians b.1
  let lo2 := radians b.2
  let h := Real.sin ((la2 - la1) / 2) ^ 2 +
    Real.cos la1 * Real.cos la2 * Real.sin ((lo2 - lo1) / 2) ^ 2
  2 * earthRadius * Real.arcsin (Real.sqrt h)

end

/-- A great circle has no negative length. -/
theorem haversine_nonneg (a b : ℝ × ℝ) : 0 ≤ haversine a b := by
  have isAngle : 0 ≤ Real.arcsin (Real.sqrt (Real.sin ((radians b.1 - radians a.1) / 2) ^ 2 +
      Real.cos (radians a.1) * Real.cos (radians b.1) *
        Real.sin ((radians b.2 - radians a.2) / 2) ^ 2)) :=
    Real.arcsin_nonneg.mpr (Real.sqrt_nonneg _)
  exact mul_nonneg (by norm_num [earthRadius]) isAngle

/-- A great circle is as long both ways. -/
theorem haversine_symmetric (a b : ℝ × ℝ) : haversine a b = haversine b a := by
  have square : ∀ first second : ℝ, Real.sin ((first - second) / 2) ^ 2 =
      Real.sin ((second - first) / 2) ^ 2 := by
    intro first second
    rw [← neg_sub second first, neg_div, Real.sin_neg, neg_sq]
  simp only [haversine]
  rw [square (radians b.1), square (radians b.2), mul_comm (Real.cos (radians a.1))]

/-- A point is at no distance from itself. -/
theorem haversine_self (a : ℝ × ℝ) : haversine a a = 0 := by simp [haversine]

/-- A degree of latitude is longer than a metre. -/
theorem one_le_haversine (latitude longitude : ℝ) :
    1 ≤ haversine (latitude, longitude) (latitude + 1, longitude) := by
  have angle : (radians (latitude + 1) - radians latitude) / 2 = Real.pi / 360 := by
    simp only [radians]
    ring
  have isPositive := Real.pi_pos
  have isSine : 0 ≤ Real.sin (Real.pi / 360) :=
    Real.sin_nonneg_of_nonneg_of_le_pi (by linarith) (by linarith)
  have isLength : haversine (latitude, longitude) (latitude + 1, longitude) =
      2 * earthRadius * (Real.pi / 360) := by
    simp only [haversine, angle, sub_self, zero_div, Real.sin_zero]
    rw [zero_pow two_ne_zero, mul_zero, add_zero, Real.sqrt_sq isSine,
      Real.arcsin_sin (by linarith) (by linarith)]
  rw [isLength, earthRadius]
  linarith [Real.pi_gt_three]

def Imports (parseFloat : String → Option ℝ) (file : OsmFile ℝ) (contents : Contents ℝ)
    (graph : OsmGraph ℝ) : Prop :=
  readFile parseFloat file = .ok contents ∧
    ∃ result, importOsm haversine parseFloat file = some result ∧ result.graph = some graph

/-- The links of a graph, each with its length before rounding. -/
def MeasuredAs (graph : OsmGraph ℝ) (measured : List (OsmLink ℝ × ℝ)) : Prop :=
  measured.map Prod.fst = graph.links ∧ ∀ pair ∈ measured, pair.1.length = roundMillimetres pair.2

theorem measuredLinks_rounded {parseFloat : String → Option ℝ} {contents : Contents ℝ}
    {pair : OsmLink ℝ × ℝ} (isMem : pair ∈ measuredLinks haversine parseFloat contents) :
    pair.1.length = roundMillimetres pair.2 := by
  obtain ⟨link, length⟩ := pair
  obtain ⟨piece, isPiece, isMeasured⟩ := List.mem_flatMap.mp isMem
  obtain ⟨_, _, isStart, isFinish⟩ := exists_ends isPiece
  obtain ⟨-, -, isLink, rfl⟩ := (Piece.mem_measured_iff isStart isFinish link length).mp isMeasured
  simp only [Piece.links, List.mem_append, List.mem_ite_nil_right, List.mem_singleton] at isLink
  obtain ⟨-, rfl⟩ | ⟨-, rfl⟩ := isLink
  · rfl
  · rfl

/-- A reading of texts as numbers for files that have none. -/
def noNumbers : String → Option ℝ := fun _ => none

/-- A node without tags on the meridian of Greenwich. -/
noncomputable def plainNode (latitude : ℝ) : OsmNode ℝ := ⟨latitude, 0, []⟩

/-- A traffic signal on the meridian of Greenwich. -/
noncomputable def signalNode (latitude : ℝ) : OsmNode ℝ :=
  ⟨latitude, 0, [("highway", some "traffic_signals")]⟩

/-- A residential road. -/
def road (id : String) (nds : List String) : Way := ⟨id, nds, [("highway", some "residential")]⟩

/-- An Overpass file with nodes and ways. -/
def overpassFile (contents : Contents ℝ) : OsmFile ℝ :=
  .json (some (contents.nodes.map (fun entry =>
        .node entry.1 (some entry.2.lat) (some entry.2.lon) entry.2.tags) ++
      contents.ways.map .way))

section

attribute [local instance] atLeastTwo_two

/-- A road of one segment, a degree long. -/
noncomputable def oneSegment : Contents ℝ :=
  { nodes := [("1", plainNode 0), ("2", plainNode 1)]
    ways := [road "7" ["1", "2"]] }

/-- A road with two traffic signals at one point. -/
noncomputable def signalsAtOnePoint : Contents ℝ :=
  { nodes := [("1", plainNode 0), ("2", signalNode 1), ("3", signalNode 1), ("4", plainNode 2)]
    ways := [road "7" ["1", "2", "3", "4"]] }

/-- Two closed roads that share a node. -/
noncomputable def closedRoads : Contents ℝ :=
  { nodes := [("1", plainNode 0), ("2", plainNode 1), ("3", plainNode 2), ("4", plainNode 3),
        ("5", plainNode 4)]
    ways := [road "7" ["1", "2", "3", "1"], road "8" ["1", "4", "5", "1"]] }

noncomputable def crossingRoad : Contents ℝ :=
  { nodes := [("1", plainNode 0), ("2", plainNode 1), ("3", plainNode 2), ("4", plainNode 3),
        ("5", plainNode 4)]
    ways := [road "7" ["1", "2", "3", "4", "2", "5"]] }

end

section

variable {contents : Contents ℝ}

theorem links_accepted {piece : Piece} (isLong : 1 ≤ piece.length haversine contents)
    {first last : String}
    (areIds : (isGraphId first && isGraphId last && isGraphId (piece.way.id ++ ":" ++ toString piece.segment) && isGraphId (piece.way.id ++ ":" ++ toString piece.segment ++ "r")) = true) :
    (piece.links haversine noNumbers contents first last).all OsmLink.isAccepted = true := by
  have isPositive := roundMillimetres_pos isLong
  simp only [Bool.and_eq_true] at areIds
  obtain ⟨⟨⟨isFirst, isLast⟩, isId⟩, isBackId⟩ := areIds
  simp only [Piece.links, List.all_append, Bool.and_eq_true, List.all_eq_true,
    List.mem_ite_nil_right, List.mem_singleton]
  constructor
  · rintro link ⟨-, rfl⟩
    simp only [OsmLink.isAccepted, isFirst, isLast, isId, isPositive, decide_true, Bool.and_self]
  · rintro link ⟨-, rfl⟩
    simp only [OsmLink.isAccepted, isFirst, isLast, isBackId, isPositive, decide_true,
      Bool.and_self]

theorem imports_of_accepted (isRead : readFile noNumbers (overpassFile contents) = .ok contents)
    (isUsable : usableWays contents ≠ [])
    (areAccepted : ∀ piece ∈ pieces contents, piece.IsAccepted haversine noNumbers contents) :
    ∃ graph, Imports noNumbers (overpassFile contents) contents graph := by
  obtain ⟨result, graph, isImported, isGraph⟩ := importOsm_isSome isRead isUsable areAccepted
  exact ⟨graph, isRead, result, isImported, isGraph⟩

/-- A way that passes no node twice, but for its ends, does not meet itself. -/
theorem cutWhereMet_of_nodup
    (nodup : ∀ way ∈ usableWays contents, way.nds.dropLast.Nodup ∧ way.nds.tail.Nodup) :
    CutWhereMet contents := by
  intro way isWay first last id isLess isFirst isLast
  obtain ⟨nodupStart, nodupEnd⟩ := nodup way isWay
  have inRange := (List.getElem?_eq_some_iff.mp isLast).1
  right
  have isEnd : last = way.nds.length - 1 := by
    by_contra notEnd
    have sameStart : way.nds.dropLast[first]? = way.nds.dropLast[last]? := by
      rw [List.getElem?_dropLast, List.getElem?_dropLast, if_pos (by omega),
        if_pos (by omega), isFirst, isLast]
    have isShort : first < way.nds.dropLast.length := by
      rw [List.length_dropLast]
      omega
    have same := (List.getElem?_inj isShort nodupStart).mp sameStart
    omega
  refine ⟨?_, isEnd⟩
  by_contra notStart
  have sameEnd : way.nds.tail[first - 1]? = way.nds.tail[last - 1]? := by
    rw [List.getElem?_tail, List.getElem?_tail, Nat.sub_add_cancel (by omega),
      Nat.sub_add_cancel (by omega), isFirst, isLast]
  have isShort : first - 1 < way.nds.tail.length := by
    rw [List.length_tail]
    omega
  have same := (List.getElem?_inj isShort nodupEnd).mp sameEnd
  omega

end

theorem oneSegment_long : 1 ≤ Piece.length haversine oneSegment ⟨road "7" ["1", "2"], 0, 0, 1⟩ := by
  have isLong := one_le_haversine 0 0
  rw [zero_add] at isLong
  have isLength : Piece.length haversine oneSegment ⟨road "7" ["1", "2"], 0, 0, 1⟩ =
      haversine (0, 0) (1, 0) + 0 := rfl
  rw [isLength, add_zero]
  exact isLong

theorem oneSegment_imports :
    ∃ graph, Imports noNumbers (overpassFile oneSegment) oneSegment graph := by
  have arePieces : pieces oneSegment = [⟨road "7" ["1", "2"], 0, 0, 1⟩] := by decide
  refine imports_of_accepted rfl (by decide) ?_
  rw [arePieces]
  intro piece isMem
  obtain rfl := List.mem_singleton.mp isMem
  exact ⟨"1", "2", rfl, rfl, Or.inr ⟨⟨rfl, rfl⟩, ⟨rfl, rfl⟩,
    links_accepted oneSegment_long (by decide)⟩⟩

/-- A part of a metre or more with two ends is not skipped. -/
theorem not_isSkipped {contents : Contents ℝ} {piece : Piece}
    (isLong : 1 ≤ piece.length haversine contents)
    (isOpen : piece.nodes.head? ≠ piece.nodes.getLast?) :
    piece.isSkipped haversine contents = false := by
  rw [Piece.isSkipped, Bool.or_eq_false_iff, decide_eq_false_iff_not,
    decide_eq_false_iff_not, not_le]
  exact ⟨by linarith, isOpen⟩

theorem signalsAtOnePoint_pieces : pieces signalsAtOnePoint =
      [⟨road "7" ["1", "2", "3", "4"], 0, 0, 1⟩, ⟨road "7" ["1", "2", "3", "4"], 1, 1, 2⟩,
        ⟨road "7" ["1", "2", "3", "4"], 2, 2, 3⟩] := by
  decide

theorem signalsAtOnePoint_first : 1 ≤ Piece.length haversine signalsAtOnePoint
      ⟨road "7" ["1", "2", "3", "4"], 0, 0, 1⟩ := by
  have isLong := one_le_haversine 0 0
  rw [zero_add] at isLong
  have isLength : Piece.length haversine signalsAtOnePoint
      ⟨road "7" ["1", "2", "3", "4"], 0, 0, 1⟩ = haversine (0, 0) (1, 0) + 0 := rfl
  rw [isLength, add_zero]
  exact isLong

theorem signalsAtOnePoint_middle : Piece.length haversine signalsAtOnePoint
      ⟨road "7" ["1", "2", "3", "4"], 1, 1, 2⟩ = 0 := by
  have isLength : Piece.length haversine signalsAtOnePoint
      ⟨road "7" ["1", "2", "3", "4"], 1, 1, 2⟩ = haversine (1, 0) (1, 0) + 0 := rfl
  rw [isLength, add_zero, haversine_self]

theorem signalsAtOnePoint_last : 1 ≤ Piece.length haversine signalsAtOnePoint
      ⟨road "7" ["1", "2", "3", "4"], 2, 2, 3⟩ := by
  have isLong := one_le_haversine 1 0
  rw [one_add_one_eq_two] at isLong
  have isLength : Piece.length haversine signalsAtOnePoint
      ⟨road "7" ["1", "2", "3", "4"], 2, 2, 3⟩ = haversine (1, 0) (2, 0) + 0 := rfl
  rw [isLength, add_zero]
  exact isLong

theorem signalsAtOnePoint_imports :
    ∃ graph, Imports noNumbers (overpassFile signalsAtOnePoint) signalsAtOnePoint graph := by
  refine imports_of_accepted rfl (by decide) ?_
  rw [signalsAtOnePoint_pieces]
  intro piece isMem
  simp only [List.mem_cons, List.not_mem_nil, or_false] at isMem
  obtain rfl | rfl | rfl := isMem
  · exact ⟨"1", "2", rfl, rfl, Or.inr ⟨⟨rfl, rfl⟩, ⟨rfl, rfl⟩,
      links_accepted signalsAtOnePoint_first (by decide)⟩⟩
  · refine ⟨"2", "3", rfl, rfl, Or.inl ?_⟩
    simp [Piece.isSkipped, signalsAtOnePoint_middle]
  · exact ⟨"3", "4", rfl, rfl, Or.inr ⟨⟨rfl, rfl⟩, ⟨rfl, rfl⟩,
      links_accepted signalsAtOnePoint_last (by decide)⟩⟩

theorem signalsAtOnePoint_parted {measured : List (OsmLink ℝ × ℝ)}
    (areLinks : measured.map Prod.fst =
      (measuredLinks haversine noNumbers signalsAtOnePoint).map Prod.fst)
    {first last : String}
    {length : ℝ}
    (isPath : LinkPath measured first last length)
    (isFirst : first = "1" ∨ first = "2") :
    last = "1" ∨ last = "2" := by
  induction isPath with
  | nil => exact isFirst
  | cons isStep _ ih =>
    apply ih
    obtain ⟨link, isMem, isFrom, isTo⟩ := isStep
    have isLink : link ∈ measured.map Prod.fst := List.mem_map.mpr ⟨_, isMem, rfl⟩
    rw [areLinks] at isLink
    obtain ⟨⟨same, ahead⟩, isOwn, rfl⟩ := List.mem_map.mp isLink
    obtain ⟨_, ⟨_, isPiece, isPositive, isDirection⟩, isHead, isEnd, -, -⟩ :=
      (linkStep_iff haversine_symmetric _ _ ahead).mp ⟨same, isOwn, isFrom, isTo⟩
    rw [signalsAtOnePoint_pieces] at isPiece
    simp only [List.mem_cons, List.not_mem_nil, or_false] at isPiece
    obtain rfl | rfl | rfl := isPiece
    · obtain ⟨-, rfl⟩ | ⟨-, rfl⟩ := isDirection
      · exact Or.inr (Option.some.inj isEnd).symm
      · exact Or.inl (Option.some.inj isEnd).symm
    · rw [signalsAtOnePoint_middle] at isPositive
      exact absurd isPositive (lt_irrefl 0)
    · obtain ⟨-, rfl⟩ | ⟨-, rfl⟩ := isDirection
      · cases isHead
        exact absurd isFirst (by decide)
      · cases isHead
        exact absurd isFirst (by decide)

theorem signalsAtOnePoint_drive : ∃ length, Drive haversine signalsAtOnePoint "1" "4" length := by
  have isUsable : road "7" ["1", "2", "3", "4"] ∈ usableWays signalsAtOnePoint := by decide
  have isForward : (road "7" ["1", "2", "3", "4"]).forward = true := by decide
  have isStep : ∀ index first second, (road "7" ["1", "2", "3", "4"]).nds[index]? = some first →
        (road "7" ["1", "2", "3", "4"]).nds[index + 1]? = some second →
          DriveStep haversine signalsAtOnePoint first second
            (nodeDistance haversine signalsAtOnePoint first second) :=
    fun index first second isFirst isSecond =>
      ⟨_, isUsable, index, Or.inl ⟨isForward, isFirst, isSecond⟩, rfl⟩
  exact ⟨_, Contraction.Walk.cons (isStep 0 "1" "2" rfl rfl)
    (Contraction.Walk.cons (isStep 1 "2" "3" rfl rfl)
      (Contraction.Walk.cons (isStep 2 "3" "4" rfl rfl) (Contraction.Walk.nil "4")))⟩

/-- The parts of two closed roads that share a node. -/
theorem closedRoads_pieces : pieces closedRoads = [⟨road "7" ["1", "2", "3", "1"], 0, 0, 3⟩,
        ⟨road "8" ["1", "4", "5", "1"], 0, 0, 3⟩] := by
  decide

theorem closedRoads_skipped :
    ∀ piece ∈ pieces closedRoads, piece.isSkipped haversine closedRoads = true := by
  rw [closedRoads_pieces]
  intro piece isMem
  simp only [List.mem_cons, List.not_mem_nil, or_false] at isMem
  rw [Piece.isSkipped, Bool.or_eq_true]
  obtain rfl | rfl := isMem
  · exact Or.inr (by decide)
  · exact Or.inr (by decide)

theorem closedRoads_imports :
    ∃ graph, Imports noNumbers (overpassFile closedRoads) closedRoads graph := by
  refine imports_of_accepted rfl (by decide) fun piece isMem => ?_
  obtain ⟨first, last, isFirst, isLast⟩ := exists_ends isMem
  exact ⟨first, last, isFirst, isLast, Or.inl (closedRoads_skipped piece isMem)⟩

theorem crossingRoad_pieces :
    pieces crossingRoad = [⟨road "7" ["1", "2", "3", "4", "2", "5"], 0, 0, 5⟩] := by
  decide

theorem crossingRoad_long : 1 ≤ Piece.length haversine crossingRoad
      ⟨road "7" ["1", "2", "3", "4", "2", "5"], 0, 0, 5⟩ := by
  have isLong := one_le_haversine 0 0
  rw [zero_add] at isLong
  have isRest := Contraction.chainLength_nonneg (nodeDistance haversine crossingRoad)
    (nodeDistance_nonneg haversine_nonneg) ["2", "3", "4", "2", "5"]
  have isLength : Piece.length haversine crossingRoad
      ⟨road "7" ["1", "2", "3", "4", "2", "5"], 0, 0, 5⟩ =
      haversine (0, 0) (1, 0) + Contraction.chainLength (nodeDistance haversine crossingRoad)
          ["2", "3", "4", "2", "5"] := rfl
  rw [isLength]
  linarith

theorem crossingRoad_imports :
    ∃ graph, Imports noNumbers (overpassFile crossingRoad) crossingRoad graph := by
  refine imports_of_accepted rfl (by decide) ?_
  rw [crossingRoad_pieces]
  intro piece isMem
  obtain rfl := List.mem_singleton.mp isMem
  exact ⟨"1", "5", rfl, rfl, Or.inr ⟨⟨rfl, rfl⟩, ⟨rfl, rfl⟩,
    links_accepted crossingRoad_long (by decide)⟩⟩

end Osm
end UrbanFlow.Networks
