import UrbanFlow.Networks.OsmGraphs

/-!
# Drives and link paths

A drive goes from one node of a usable way to the next, in a direction the way
allows. The links of an import are the parts of the ways contracted: between two
nodes of the graph there is a drive when there is a path of links, and the shortest
of each are equally long before rounding, as long as a way is cut where it meets
itself and parts without a length are left out.
-/

namespace UrbanFlow.Networks
namespace Osm

open Contraction

/-- A way may be driven from one of its nodes to the next or the one before. -/
def Way.Allows (way : Way) (index : Nat) (first second : String) : Prop :=
  way.forward = true ∧ way.nds[index]? = some first ∧ way.nds[index + 1]? = some second ∨
    way.backward = true ∧ way.nds[index]? = some second ∧ way.nds[index + 1]? = some first

section

variable {K : Type} [Field K] (distance : K × K → K × K → K) (contents : Contents K)

def DriveStep (first second : String) (ahead : K) : Prop :=
  ∃ way ∈ usableWays contents, ∃ index, way.Allows index first second ∧
    ahead = nodeDistance distance contents first second

/-- A drive from one node to another, and its length. -/
def Drive : String → String → K → Prop := Walk (DriveStep distance contents)

section

variable (measured : List (OsmLink K × K))

/-- A step along one of the links, and its length before rounding. -/
def LinkStep (first second : String) (ahead : K) : Prop :=
  ∃ link, (link, ahead) ∈ measured ∧ link.from_ = first ∧ link.to_ = second

/-- A path of links from one node to another, and its length before rounding. -/
def LinkPath : String → String → K → Prop := Walk (LinkStep measured)

end

variable [LinearOrder K]

/-- A step of a drive along a part that has a length. -/
def MeasuredStep (first second : String) (ahead : K) : Prop :=
  ∃ way ∈ usableWays contents, ∃ index, way.Allows index first second ∧
    (∃ piece ∈ piecesOf (isCut contents) way, piece.start ≤ index ∧ index < piece.finish ∧
        0 < piece.length distance contents) ∧
    ahead = nodeDistance distance contents first second

/-- A drive along parts that have a length. -/
def MeasuredDrive : String → String → K → Prop := Walk (MeasuredStep distance contents)

/-- The nodes of a part that has a length, in a direction it may be driven. -/
def Drivable (chain : List String) : Prop :=
  ∃ piece ∈ pieces contents, 0 < piece.length distance contents ∧
    (piece.way.forward = true ∧ chain = piece.nodes ∨
      piece.way.backward = true ∧ chain = piece.nodes.reverse)

variable {distance contents}

omit [Field K] [LinearOrder K] in
/-- Two nodes side by side in a part. -/
theorem Piece.exists_append_iff {piece : Piece} {first second : String} :
    (∃ before after, piece.nodes = before ++ first :: second :: after) ↔
      ∃ index, piece.start ≤ index ∧ index < piece.finish ∧ piece.way.nds[index]? = some first ∧
          piece.way.nds[index + 1]? = some second := by
  rw [Slices.exists_append_iff]
  constructor
  · rintro ⟨index, isFirst, isSecond⟩
    rw [Piece.nodes_getElem?, Option.ite_none_right_eq_some] at isFirst isSecond
    exact ⟨piece.start + index, by omega, by omega, isFirst.2, isSecond.2⟩
  · rintro ⟨_, fromStart, _, isFirst, isSecond⟩
    obtain ⟨place, rfl⟩ := Nat.exists_eq_add_of_le fromStart
    refine ⟨place, ?_, ?_⟩
    · rw [Piece.nodes_getElem?, if_pos (by omega)]
      exact isFirst
    · rw [Piece.nodes_getElem?, if_pos (by omega)]
      exact isSecond

/-- The steps of a drive along parts that have a length are the steps along these
parts. -/
theorem measuredStep_iff (first second : String) (ahead : K) :
    MeasuredStep distance contents first second ahead ↔
      Step (nodeDistance distance contents) (Drivable distance contents)
        first second ahead := by
  constructor
  · rintro ⟨way, isWay, index, isAllowed, ⟨piece, isPiece, fromStart, beforeFinish,
      isPositive⟩, rfl⟩
    obtain rfl := (mem_piecesOf_iff.mp isPiece).1
    have isMem := mem_pieces_iff.mpr ⟨isWay, isPiece⟩
    obtain ⟨isForward, isFirst, isSecond⟩ | ⟨isBackward, isSecond, isFirst⟩ := isAllowed
    · obtain ⟨before, after, isChain⟩ :=
        Piece.exists_append_iff.mpr ⟨index, fromStart, beforeFinish, isFirst, isSecond⟩
      exact ⟨before, after, ⟨piece, isMem, isPositive, Or.inl ⟨isForward, isChain.symm⟩⟩, rfl⟩
    · obtain ⟨before, after, isChain⟩ :=
        Piece.exists_append_iff.mpr ⟨index, fromStart, beforeFinish, isSecond, isFirst⟩
      refine ⟨after.reverse, before.reverse,
        ⟨piece, isMem, isPositive, Or.inr ⟨isBackward, ?_⟩⟩, rfl⟩
      simp [isChain]
  · rintro ⟨before, after, ⟨piece, isMem, isPositive, isDirection⟩, rfl⟩
    obtain ⟨isWay, isPiece⟩ := mem_pieces_iff.mp isMem
    obtain ⟨isForward, isChain⟩ | ⟨isBackward, isChain⟩ := isDirection
    · obtain ⟨index, fromStart, beforeFinish, isFirst, isSecond⟩ :=
        Piece.exists_append_iff.mp ⟨before, after, isChain.symm⟩
      exact ⟨piece.way, isWay, index, Or.inl ⟨isForward, isFirst, isSecond⟩,
        ⟨piece, isPiece, fromStart, beforeFinish, isPositive⟩, rfl⟩
    · have isReverse : piece.nodes = after.reverse ++ second :: first :: before.reverse := by
        rw [← List.reverse_reverse piece.nodes, ← isChain]
        simp
      obtain ⟨index, fromStart, beforeFinish, isSecond, isFirst⟩ :=
        Piece.exists_append_iff.mp ⟨after.reverse, before.reverse, isReverse⟩
      exact ⟨piece.way, isWay, index, Or.inr ⟨isBackward, isSecond, isFirst⟩,
        ⟨piece, isPiece, fromStart, beforeFinish, isPositive⟩, rfl⟩

theorem measuredStep_iff_driveStep
    (isPositive : ∀ piece ∈ pieces contents, 0 < piece.length distance contents)
    (first second : String) (ahead : K) : MeasuredStep distance contents first second ahead ↔
      DriveStep distance contents first second ahead := by
  constructor
  · rintro ⟨way, isWay, index, isAllowed, -, isLength⟩
    exact ⟨way, isWay, index, isAllowed, isLength⟩
  · rintro ⟨way, isWay, index, isAllowed, isLength⟩
    have inRange : index + 1 < way.nds.length := by
      obtain ⟨-, -, isSecond⟩ | ⟨-, -, isFirst⟩ := isAllowed
      · exact (List.getElem?_eq_some_iff.mp isSecond).1
      · exact (List.getElem?_eq_some_iff.mp isFirst).1
    have isInside : ∃ piece ∈ piecesOf (isCut contents) way,
        piece.start ≤ index ∧ index < piece.finish :=
      exists_piece inRange
    obtain ⟨piece, isPiece, fromStart, beforeFinish⟩ := isInside
    obtain rfl := (mem_piecesOf_iff.mp isPiece).1
    exact ⟨piece.way, isWay, index, isAllowed, ⟨piece, isPiece, fromStart, beforeFinish,
        isPositive piece (mem_pieces_iff.mpr ⟨isWay, isPiece⟩)⟩, isLength⟩

/-- A node of a chain that may be driven is a node of a part, in one of the two
directions. -/
theorem Drivable.exists_piece {before after : List String} {id : String}
    (isDrivable : Drivable distance contents (before ++ id :: after)) :
    ∃ piece ∈ pieces contents, piece.nodes = before ++ id :: after ∨
      piece.nodes = after.reverse ++ id :: before.reverse := by
  obtain ⟨piece, isMem, -, ⟨-, isChain⟩ | ⟨-, isChain⟩⟩ := isDrivable
  · exact ⟨piece, isMem, Or.inl isChain.symm⟩
  · refine ⟨piece, isMem, Or.inr ?_⟩
    rw [← List.reverse_reverse piece.nodes, ← isChain]
    simp

omit [Field K] [LinearOrder K] in
theorem split_unique (cutWhereMet : CutWhereMet contents) {piece other : Piece}
    (isMem : piece ∈ pieces contents) (isOther : other ∈ pieces contents)
    {before after before' after' : List String} {id : String} (beforeNe : before ≠ [])
    (afterNe : after ≠ []) (isSplit : piece.nodes = before ++ id :: after)
    (isOtherSplit : other.nodes = before' ++ id :: after') : before' = before ∧ after' = after := by
  have isLong : before.length + 1 < piece.nodes.length := by
    have := List.length_pos_iff.mpr afterNe
    rw [isSplit, List.length_append, List.length_cons]
    omega
  have isAt : piece.nodes[before.length]? = some id := by simp [isSplit]
  have isAt' : other.nodes[before'.length]? = some id := by simp [isOtherSplit]
  obtain ⟨rfl, samePlace⟩ :=
    eq_of_mem_inside cutWhereMet isMem isOther isAt (List.length_pos_iff.mpr beforeNe) isLong isAt'
  obtain ⟨sameBefore, sameRest⟩ := List.append_inj (isOtherSplit.symm.trans isSplit) samePlace
  exact ⟨sameBefore, (List.cons.inj sameRest).2⟩

/-- A node inside a part stands nowhere else in what may be driven. -/
theorem interiorsUnique (cutWhereMet : CutWhereMet contents) :
    InteriorsUnique (Drivable distance contents) := by
  intro id before after beforeNe afterNe isDrivable before' after' isOther
  have reverseNe : after.reverse ≠ [] := List.reverse_ne_nil_iff.mpr afterNe
  have reverseNe' : before.reverse ≠ [] := List.reverse_ne_nil_iff.mpr beforeNe
  obtain ⟨piece, isMem, isSplit | isSplit⟩ := isDrivable.exists_piece
  · obtain ⟨other, isOtherMem, isOtherSplit | isOtherSplit⟩ := isOther.exists_piece
    · exact Or.inl (split_unique cutWhereMet isMem isOtherMem beforeNe afterNe isSplit isOtherSplit)
    · obtain ⟨rfl, rfl⟩ := split_unique cutWhereMet isMem isOtherMem beforeNe afterNe
        isSplit isOtherSplit
      right
      simp
  · obtain ⟨other, isOtherMem, isOtherSplit | isOtherSplit⟩ := isOther.exists_piece
    · exact Or.inr (split_unique cutWhereMet isMem isOtherMem reverseNe reverseNe'
        isSplit isOtherSplit)
    · obtain ⟨sameAfter, sameBefore⟩ := split_unique cutWhereMet isMem isOtherMem
        reverseNe reverseNe' isSplit isOtherSplit
      exact Or.inl ⟨List.reverse_inj.mp sameBefore, List.reverse_inj.mp sameAfter⟩

/-- What is in the middle of a chain that may be driven is inside a part. -/
theorem exists_inside_of_interior {id : String}
    (isInterior : Interior (Drivable distance contents) id) :
    ∃ piece ∈ pieces contents, ∃ index, piece.nodes[index]? = some id ∧ 0 < index ∧
      index + 1 < piece.nodes.length := by
  obtain ⟨before, after, beforeNe, afterNe, isDrivable⟩ := isInterior
  have beforePos := List.length_pos_iff.mpr beforeNe
  have afterPos := List.length_pos_iff.mpr afterNe
  obtain ⟨piece, isMem, isSplit | isSplit⟩ := isDrivable.exists_piece
  · refine ⟨piece, isMem, before.length, by simp [isSplit], beforePos, ?_⟩
    rw [isSplit, List.length_append, List.length_cons]
    omega
  · refine ⟨piece, isMem, after.reverse.length, ?_, by simpa using afterPos, ?_⟩
    · rw [isSplit, List.getElem?_append_right le_rfl, Nat.sub_self, List.getElem?_cons_zero]
    · rw [isSplit, List.length_append, List.length_cons, List.length_reverse, List.length_reverse]
      omega

omit [Field K] [LinearOrder K] in
/-- The end of a part is its first or its last node. -/
theorem Piece.EndsAt.exists_index {piece : Piece} {id : String} (endsAt : piece.EndsAt id) :
    ∃ index, piece.nodes[index]? = some id ∧ (index = 0 ∨ index + 1 = piece.nodes.length) := by
  obtain isFirst | isLast := endsAt
  · rw [List.head?_eq_getElem?] at isFirst
    exact ⟨0, isFirst, Or.inl rfl⟩
  · rw [List.getLast?_eq_getElem?] at isLast
    have inRange := (List.getElem?_eq_some_iff.mp isLast).1
    exact ⟨piece.nodes.length - 1, isLast, Or.inr (by omega)⟩

/-- The end of a part is not in the middle of a chain. -/
theorem not_interior_of_endsAt (cutWhereMet : CutWhereMet contents) {piece : Piece}
    (isMem : piece ∈ pieces contents) {id : String} (endsAt : piece.EndsAt id) :
    ¬ Interior (Drivable distance contents) id := by
  intro isInterior
  obtain ⟨_, isOther, _, isNode, afterStart, beforeFinish⟩ :=
    exists_inside_of_interior isInterior
  obtain ⟨_, isPlace, _⟩ := endsAt.exists_index
  obtain ⟨rfl, rfl⟩ :=
    eq_of_mem_inside cutWhereMet isOther isMem isNode afterStart beforeFinish isPlace
  omega

end

section

variable {K : Type} [Field K] [LinearOrder K] [FloorRing K] {distance : K × K → K × K → K}
  {parseFloat : String → Option K}
  {contents : Contents K}

omit [Field K] [LinearOrder K] [FloorRing K] in
theorem exists_ends {piece : Piece} (isMem : piece ∈ pieces contents) :
    ∃ first last, piece.nodes.head? = some first ∧ piece.nodes.getLast? = some last := by
  have isPart := isPart_of_mem_pieces isMem
  have isLong := isPart.nodes_length
  have isLess := isPart.isLess
  cases nodes : piece.nodes with
  | nil =>
    rw [nodes, List.length_nil] at isLong
    omega
  | cons first rest =>
    exact ⟨first, (first :: rest).getLast (by simp), rfl, List.getLast?_eq_some_getLast _⟩

omit [LinearOrder K] [FloorRing K] in
/-- The distance between two nodes is the same both ways. -/
theorem nodeDistance_symmetric
    (symmetric : ∀ first second, distance first second = distance second first)
    (first second : String) : nodeDistance distance contents first second =
      nodeDistance distance contents second first := by
  unfold nodeDistance
  cases contents.node first <;> cases contents.node second
  · rfl
  · rfl
  · rfl
  · exact symmetric _ _

omit [FloorRing K] in
theorem nodeDistance_nonneg (nonneg : ∀ first second, 0 ≤ distance first second)
    (first second : String) : 0 ≤ nodeDistance distance contents first second := by
  unfold nodeDistance
  split
  · exact nonneg _ _
  · exact le_rfl

theorem Piece.mem_measured_iff {piece : Piece} {first last : String}
    (isFirst : piece.nodes.head? = some first) (isLast : piece.nodes.getLast? = some last)
    (link : OsmLink K) (length : K) : (link, length) ∈ piece.measured distance parseFloat contents ↔
      0 < piece.length distance contents ∧ first ≠ last ∧
        link ∈ piece.links distance parseFloat contents first last ∧
        length = piece.length distance contents := by
  have isKept : ¬ piece.isSkipped distance contents = true ↔
      0 < piece.length distance contents ∧ first ≠ last := by
    simp [Piece.isSkipped, isFirst, isLast, not_le]
  simp only [Piece.measured, isFirst, isLast]
  split
  case isTrue isSkipped =>
    constructor
    · intro isMem
      cases isMem
    · rintro ⟨isPositive, isDifferent, -⟩
      exact absurd isSkipped (isKept.mpr ⟨isPositive, isDifferent⟩)
  case isFalse notSkipped =>
    obtain ⟨isPositive, isDifferent⟩ := isKept.mp notSkipped
    simp [isPositive, isDifferent, eq_comm]

variable (distance parseFloat contents) in
/-- The ends of the links of a part, one for each direction it may be driven. -/
theorem Piece.exists_link_iff {piece : Piece} {start finish first last : String} :
    (∃ link ∈ piece.links distance parseFloat contents start finish,
      link.from_ = first ∧ link.to_ = last) ↔
      piece.way.forward = true ∧ start = first ∧ finish = last ∨
        piece.way.backward = true ∧ finish = first ∧ start = last := by
  simp only [Piece.links, List.mem_append, List.mem_ite_nil_right, List.mem_singleton]
  constructor
  · rintro ⟨link, ⟨isForward, rfl⟩ | ⟨isBackward, rfl⟩, isFirst, isLast⟩
    · exact Or.inl ⟨isForward, isFirst, isLast⟩
    · exact Or.inr ⟨isBackward, isFirst, isLast⟩
  · rintro (⟨isForward, isFirst, isLast⟩ | ⟨isBackward, isFirst, isLast⟩)
    · exact ⟨_, Or.inl ⟨isForward, rfl⟩, isFirst, isLast⟩
    · exact ⟨_, Or.inr ⟨isBackward, rfl⟩, isFirst, isLast⟩

theorem linkStep_iff (symmetric : ∀ first second, distance first second = distance second first)
    (first last : String) (ahead : K) :
    LinkStep (measuredLinks distance parseFloat contents) first last ahead ↔
      Link (nodeDistance distance contents) (Drivable distance contents)
        first last ahead := by
  constructor
  · rintro ⟨link, isMem, isFirst, isLast⟩
    obtain ⟨piece, isPiece, isMeasured⟩ := List.mem_flatMap.mp isMem
    obtain ⟨_, _, isStart, isFinish⟩ := exists_ends isPiece
    obtain ⟨isPositive, isDifferent, isLink, rfl⟩ :=
      (Piece.mem_measured_iff isStart isFinish link ahead).mp isMeasured
    obtain ⟨isForward, rfl, rfl⟩ | ⟨isBackward, rfl, rfl⟩ :=
      (Piece.exists_link_iff distance parseFloat contents).mp ⟨link, isLink, isFirst, isLast⟩
    · exact ⟨piece.nodes, ⟨piece, isPiece, isPositive, Or.inl ⟨isForward, rfl⟩⟩,
        isStart, isFinish, isDifferent, rfl⟩
    · refine ⟨piece.nodes.reverse, ⟨piece, isPiece, isPositive, Or.inr ⟨isBackward, rfl⟩⟩, ?_, ?_,
        isDifferent.symm, ?_⟩
      · rwa [List.head?_reverse]
      · rwa [List.getLast?_reverse]
      · rw [chainLength_reverse _ (nodeDistance_symmetric symmetric)]
        rfl
  · rintro ⟨chain, ⟨piece, isPiece, isPositive, isDirection⟩, isFirst, isLast, isDifferent, rfl⟩
    obtain ⟨isForward, rfl⟩ | ⟨isBackward, rfl⟩ := isDirection
    · obtain ⟨link, isLink, isFrom, isTo⟩ :=
        (Piece.exists_link_iff distance parseFloat contents).mpr (Or.inl ⟨isForward, rfl, rfl⟩)
      refine ⟨link, List.mem_flatMap.mpr ⟨piece, isPiece, ?_⟩, isFrom, isTo⟩
      exact (Piece.mem_measured_iff isFirst isLast link _).mpr
        ⟨isPositive, isDifferent, isLink, rfl⟩
    · rw [List.head?_reverse] at isFirst
      rw [List.getLast?_reverse] at isLast
      obtain ⟨link, isLink, isFrom, isTo⟩ :=
        (Piece.exists_link_iff distance parseFloat contents).mpr (Or.inr ⟨isBackward, rfl, rfl⟩)
      refine ⟨link, List.mem_flatMap.mpr ⟨piece, isPiece, ?_⟩, isFrom, isTo⟩
      refine (Piece.mem_measured_iff isLast isFirst link _).mpr
        ⟨isPositive, isDifferent.symm, isLink, ?_⟩
      exact chainLength_reverse _ (nodeDistance_symmetric symmetric) _

end

section

variable (piece : Piece) (index : Nat)

/-- A drive along a part arrives at a place of it. -/
def Piece.Arrives : Prop :=
  piece.way.forward = true ∧ 0 < index ∨ piece.way.backward = true ∧ index + 1 < piece.nodes.length

/-- A drive along a part leaves from a place of it. -/
def Piece.Leaves : Prop :=
  piece.way.forward = true ∧ index + 1 < piece.nodes.length ∨ piece.way.backward = true ∧ 0 < index

end

/-- A drive can pass at a node from one part of a way to another way, or to another
part or place of the same way. -/
def Passes {K : Type} (contents : Contents K) (id : String) : Prop :=
  ∃ piece ∈ pieces contents, ∃ other ∈ pieces contents, ∃ index place,
    piece.nodes[index]? = some id ∧ piece.Arrives index ∧
      other.nodes[place]? = some id ∧ other.Leaves place ∧ (piece, index) ≠ (other, place)

section

variable {K : Type} {contents : Contents K} (cutWhereMet : CutWhereMet contents) {id : String}

include cutWhereMet

/-- Where a drive can pass to another part, every part with the node ends there. -/
theorem endsAt_of_passes (passes : Passes contents id) {piece : Piece}
    (isMem : piece ∈ pieces contents) (uses : id ∈ piece.nodes) : piece.EndsAt id := by
  obtain ⟨first, isFirst, second, isSecond, index, place, isIndex, -, isPlace, -,
    isDifferent⟩ := passes
  obtain ⟨middle, inRange, isMiddle⟩ := List.getElem_of_mem uses
  have isNode : piece.nodes[middle]? = some id := List.getElem?_eq_some_iff.mpr ⟨inRange, isMiddle⟩
  by_cases isStart : middle = 0
  · left
    rw [List.head?_eq_getElem?, ← isStart]
    exact isNode
  by_cases isFinish : middle + 1 = piece.nodes.length
  · right
    rw [List.getLast?_eq_getElem?, ← isFinish, Nat.add_sub_cancel]
    exact isNode
  have afterStart : 0 < middle := Nat.pos_of_ne_zero isStart
  have beforeFinish : middle + 1 < piece.nodes.length := by omega
  obtain ⟨rfl, rfl⟩ :=
    eq_of_mem_inside cutWhereMet isMem isFirst isNode afterStart beforeFinish isIndex
  obtain ⟨rfl, rfl⟩ :=
    eq_of_mem_inside cutWhereMet isMem isSecond isNode afterStart beforeFinish isPlace
  exact absurd rfl isDifferent

end

/-- Between the nodes of a graph there are paths where there are drives, and the
shortest are equally long. -/
structure PreservesDrives {K : Type} [LE K] (drive path : String → String → K → Prop)
    (nodes : List String) : Prop where
  drivable : ∀ first ∈ nodes, ∀ last ∈ nodes,
    (∃ length, drive first last length) ↔ ∃ length, path first last length
  isDrive : ∀ first ∈ nodes, ∀ last ∈ nodes, ∀ length,
    path first last length → drive first last length
  noLonger : ∀ first ∈ nodes, ∀ last ∈ nodes, ∀ length,
    drive first last length → ∃ shorter ≤ length, path first last shorter
  shortest : ∀ first ∈ nodes, ∀ last ∈ nodes, ∀ length,
    IsLeast {ahead | drive first last ahead} length ↔ IsLeast {ahead | path first last ahead} length

section

variable {K : Type} [Field K] [LinearOrder K] [IsStrictOrderedRing K] [FloorRing K]
  {distance : K × K → K × K → K}
  (nonneg : ∀ first second, 0 ≤ distance first second)
  (symmetric : ∀ first second, distance first second = distance second first)
  {parseFloat : String → Option K}
  {contents : Contents K}

include nonneg symmetric

theorem preservesDrives_of_ends (cutWhereMet : CutWhereMet contents) {nodes : List String}
    (isEnd : ∀ id ∈ nodes, ∃ piece ∈ pieces contents, piece.EndsAt id) :
    PreservesDrives (MeasuredDrive distance contents)
      (LinkPath (measuredLinks distance parseFloat contents)) nodes := by
  have steps : MeasuredStep distance contents =
      Step (nodeDistance distance contents) (Drivable distance contents) := by
    funext first second ahead
    exact propext (measuredStep_iff first second ahead)
  have links : LinkStep (measuredLinks distance parseFloat contents) =
      Link (nodeDistance distance contents) (Drivable distance contents) := by
    funext first last ahead
    exact propext (linkStep_iff symmetric first last ahead)
  have nodeNonneg : ∀ first second, 0 ≤ nodeDistance distance contents first second :=
    nodeDistance_nonneg nonneg
  have nodeSymmetric : ∀ first second, nodeDistance distance contents first second =
      nodeDistance distance contents second first :=
    nodeDistance_symmetric symmetric
  have unique : InteriorsUnique (Drivable distance contents) :=
    interiorsUnique cutWhereMet
  have notInterior : ∀ id ∈ nodes, ¬ Interior (Drivable distance contents) id := by
    intro id isNode
    obtain ⟨piece, isMem, endsAt⟩ := isEnd id isNode
    exact not_interior_of_endsAt cutWhereMet isMem endsAt
  rw [MeasuredDrive, LinkPath, steps, links]
  refine ⟨?_, ?_, ?_, ?_⟩
  · intro first isFirst last isLast
    exact exists_walk_iff nodeNonneg nodeSymmetric unique
      (notInterior first isFirst) (notInterior last isLast)
  · intro first _ last _ length isPath
    exact walk_of_links isPath
  · intro first isFirst last isLast length isWalk
    exact (walk_contracts nodeNonneg nodeSymmetric unique
      (notInterior last isLast) isWalk).1 (notInterior first isFirst)
  · intro first isFirst last isLast length
    exact isLeast_walk_iff nodeNonneg nodeSymmetric unique
      (notInterior first isFirst) (notInterior last isLast) length

end

end Osm
end UrbanFlow.Networks
