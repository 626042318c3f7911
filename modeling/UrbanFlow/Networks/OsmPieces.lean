import UrbanFlow.Library.Slices
import UrbanFlow.Networks.OsmImport

/-!
# The parts of a way

A way is cut at its ends and at every node in its middle that other ways use or
that is a signal: each pair of consecutive nodes lies in one part, and no cut lies
inside a part. A node that no way passes twice without being cut there stands
inside at most one part, at one place.
-/

namespace UrbanFlow.Networks
namespace Osm

section

variable (cutAt : String → Bool) {nds : List String} (isLong : 2 ≤ nds.length)

section

variable (nds : List String)

theorem mem_cuts_iff (index : Nat) : index ∈ cuts cutAt nds ↔ index = 0 ∨
        (1 ≤ index ∧ index < nds.length - 1 ∧ (nds[index]?).any cutAt = true) ∨
          index = nds.length - 1 := by
  have isMiddle : 1 ≤ index ∧ index < 1 + (nds.length - 2) ↔
      1 ≤ index ∧ index < nds.length - 1 := by
    omega
  simp only [cuts, List.mem_append, List.mem_singleton, List.mem_filter,
    List.mem_range'_1, isMiddle, or_assoc, and_assoc]

/-- A way is cut at its first node. -/
theorem cuts_head? : (cuts cutAt nds).head? = some 0 := by simp [cuts]

theorem cuts_getLast? : (cuts cutAt nds).getLast? = some (nds.length - 1) := by
  rw [cuts, List.getLast?_concat]

end

include isLong

theorem cuts_ascending : (cuts cutAt nds).Pairwise (· < ·) := by
  have ascending : (List.range' 1 (nds.length - 2)).Pairwise (· < ·) := List.pairwise_lt_range'
  have middle := ascending.filter fun index => (nds[index]?).any cutAt
  have isMiddle : ∀ index ∈ (List.range' 1 (nds.length - 2)).filter
      (fun index => (nds[index]?).any cutAt), 1 ≤ index ∧ index < nds.length - 1 := by
    intro index isMem
    have inRange := List.mem_range'_1.mp (List.mem_filter.mp isMem).1
    omega
  rw [cuts, List.append_assoc, List.singleton_append, List.pairwise_cons]
  constructor
  · intro index isMem
    obtain isMem | isMem := List.mem_append.mp isMem
    · exact (isMiddle index isMem).1
    · obtain rfl := List.mem_singleton.mp isMem
      omega
  · refine List.pairwise_append.mpr ⟨middle, List.pairwise_singleton _ _, ?_⟩
    intro index isMem last isLast
    obtain rfl := List.mem_singleton.mp isLast
    exact (isMiddle index isMem).2

end

section

variable {cutAt : String → Bool} {way : Way} {piece : Piece}

/-- A part is numbered by its place among the parts of its way. -/
theorem mem_piecesOf_iff : piece ∈ piecesOf cutAt way ↔ piece.way = way ∧
        ((cuts cutAt way.nds).zip (cuts cutAt way.nds).tail)[piece.segment]? =
          some (piece.start, piece.finish) := by
  cases piece with
  | mk _ segment start finish =>
    simp only [piecesOf, List.mem_map, Piece.mk.injEq, Prod.exists, List.mk_mem_zipIdx_iff_getElem?]
    constructor
    · rintro ⟨_, _, _, isPart, rfl, rfl, rfl, rfl⟩
      exact ⟨rfl, isPart⟩
    · rintro ⟨rfl, isPart⟩
      exact ⟨start, finish, segment, isPart, rfl, rfl, rfl, rfl⟩

/-- What a part of a way is: two nodes or more, with no cut between its ends. -/
structure IsPart (cutAt : String → Bool) (piece : Piece) : Prop where
  isLess : piece.start < piece.finish
  inRange : piece.finish < piece.way.nds.length
  isUncut : ∀ index, piece.start < index → index < piece.finish →
    (piece.way.nds[index]?).any cutAt = false

theorem mem_zip_of_mem_piecesOf (isMem : piece ∈ piecesOf cutAt way) :
    (piece.start, piece.finish) ∈ (cuts cutAt way.nds).zip (cuts cutAt way.nds).tail :=
  List.mem_of_getElem? (mem_piecesOf_iff.mp isMem).2

section

variable (isLong : 2 ≤ way.nds.length) (isMem : piece ∈ piecesOf cutAt way)

include isLong isMem

/-- Two parts of a way with an index in common that is no end of the first. -/
theorem eq_of_inside {other : Piece} (isOther : other ∈ piecesOf cutAt way) {index : Nat}
    (afterStart : piece.start < index) (beforeFinish : index < piece.finish)
    (fromStart : other.start ≤ index) (toFinish : index ≤ other.finish) : other = piece := by
  have ascending := cuts_ascending cutAt isLong
  have isPair := mem_zip_of_mem_piecesOf isMem
  have isOtherPair := mem_zip_of_mem_piecesOf isOther
  obtain ⟨isStart, isFinish, -, between⟩ := Slices.neighbours_of_mem ascending isPair
  obtain ⟨isStart', isFinish', -, between'⟩ := Slices.neighbours_of_mem ascending isOtherPair
  have sameStart : other.start = piece.start := by
    have := between _ isStart'
    have := between' _ isStart
    have := between' _ isFinish
    omega
  have sameFinish : other.finish = piece.finish := by
    have := between _ isFinish'
    have := between' _ isFinish
    have := between' _ isStart
    omega
  obtain ⟨isWay, isSegment⟩ := mem_piecesOf_iff.mp isMem
  obtain ⟨isWay', isSegment'⟩ := mem_piecesOf_iff.mp isOther
  have sameSegment : other.segment = piece.segment := by
    rw [sameStart, sameFinish, ← isSegment] at isSegment'
    have inRange := (List.getElem?_eq_some_iff.mp isSegment).1
    exact ((List.getElem?_inj inRange (Slices.nodup_neighbours ascending)).mp isSegment'.symm).symm
  cases piece with
  | mk =>
    cases other with
    | mk =>
      rw [Piece.mk.injEq]
      exact ⟨isWay'.trans isWay.symm, sameSegment, sameStart, sameFinish⟩

theorem isPart_of_mem : IsPart cutAt piece := by
  obtain rfl := (mem_piecesOf_iff.mp isMem).1
  obtain ⟨isStart, isFinish, isLess, between⟩ :=
    Slices.neighbours_of_mem (cuts_ascending cutAt isLong) (mem_zip_of_mem_piecesOf isMem)
  rw [mem_cuts_iff] at isFinish
  have inRange : piece.finish < piece.way.nds.length := by
    obtain isZero | ⟨-, isInside, -⟩ | isLast := isFinish <;> omega
  refine ⟨isLess, inRange, fun index afterStart beforeFinish => ?_⟩
  by_contra isCutThere
  rw [Bool.not_eq_false] at isCutThere
  have isCutIndex := (mem_cuts_iff cutAt piece.way.nds index).mpr
    (Or.inr (Or.inl ⟨by omega, by omega, isCutThere⟩))
  obtain isBefore | isAfter := between index isCutIndex <;> omega

end

/-- Two consecutive nodes of a way lie in one of its parts. -/
theorem exists_piece {index : Nat} (inRange : index + 1 < way.nds.length) :
    ∃ piece ∈ piecesOf cutAt way, piece.start ≤ index ∧ index < piece.finish := by
  obtain ⟨start, finish, isPair, fromStart, beforeFinish⟩ :=
    Slices.exists_neighbours (cuts_head? cutAt way.nds) (cuts_getLast? cutAt way.nds)
      (Nat.zero_le index) (by omega)
  obtain ⟨segment, isSegment⟩ := List.mem_iff_getElem?.mp isPair
  exact ⟨⟨way, segment, start, finish⟩, mem_piecesOf_iff.mpr ⟨rfl, isSegment⟩,
    fromStart, beforeFinish⟩

/-- The nodes of a part, by their place in the part. -/
theorem Piece.nodes_getElem? (piece : Piece) (index : Nat) :
    piece.nodes[index]? = if piece.start + index ≤ piece.finish then
        piece.way.nds[piece.start + index]? else none :=
  Slices.slice_getElem? piece.way.nds piece.start piece.finish index

theorem IsPart.nodes_length (isPart : IsPart cutAt piece) :
    piece.nodes.length = piece.finish + 1 - piece.start :=
  Slices.slice_length isPart.inRange

end

section

variable {K : Type} {contents : Contents K}

theorem two_le_of_mem_usableWays {way : Way} (isMem : way ∈ usableWays contents) :
    2 ≤ way.nds.length := by
  have isKept := (List.mem_filter.mp (List.mem_filter.mp isMem).1).2
  by_contra isShort
  simp only [Way.skipReason] at isKept
  split_ifs at isKept <;> simp_all

theorem mem_pieces_iff {piece : Piece} : piece ∈ pieces contents ↔ piece.way ∈ usableWays contents ∧
        piece ∈ piecesOf (isCut contents) piece.way := by
  rw [pieces, List.mem_flatMap]
  constructor
  · rintro ⟨way, isWay, isMem⟩
    obtain rfl := (mem_piecesOf_iff.mp isMem).1
    exact ⟨isWay, isMem⟩
  · rintro ⟨isWay, isMem⟩
    exact ⟨piece.way, isWay, isMem⟩

theorem isPart_of_mem_pieces {piece : Piece} (isMem : piece ∈ pieces contents) :
    IsPart (isCut contents) piece := by
  obtain ⟨isWay, isMem⟩ := mem_pieces_iff.mp isMem
  exact isPart_of_mem (two_le_of_mem_usableWays isWay) isMem

theorem eq_of_not_isCut {way other : Way} {id : String} (isWay : way ∈ usableWays contents)
    (isOther : other ∈ usableWays contents) (uses : id ∈ way.nds) (otherUses : id ∈ other.nds)
    (notCut : isCut contents id = false) : other = way := by
  rw [isCut, Bool.or_eq_false_iff, decide_eq_false_iff_not, not_le] at notCut
  have isShort := Nat.le_of_lt_succ notCut.1
  rw [usage, List.countP_eq_length_filter] at isShort
  have isUser : ∀ user ∈ usableWays contents, id ∈ user.nds →
      user ∈ (usableWays contents).filter fun user => id ∈ user.nds :=
    fun user isMem isUsed => List.mem_filter.mpr ⟨isMem, decide_eq_true isUsed⟩
  obtain ⟨index, inRange, isIndex⟩ := List.getElem_of_mem (isUser way isWay uses)
  obtain ⟨place, isPlace, isAt⟩ := List.getElem_of_mem (isUser other isOther otherUses)
  obtain rfl : index = place := by omega
  rw [← isIndex, ← isAt]

/-- No way passes a node twice without being cut there, except that it may end where
it starts. -/
def CutWhereMet (contents : Contents K) : Prop :=
  ∀ way ∈ usableWays contents, ∀ (first last : Nat) (id : String), first < last →
    way.nds[first]? = some id → way.nds[last]? = some id →
      isCut contents id = true ∨ first = 0 ∧ last = way.nds.length - 1

/-- A node inside a part stands nowhere else. -/
theorem eq_of_mem_inside (cutWhereMet : CutWhereMet contents) {piece other : Piece}
    (isMem : piece ∈ pieces contents) (isOther : other ∈ pieces contents) {index place : Nat}
    {id : String} (isNode : piece.nodes[index]? = some id) (afterStart : 0 < index)
    (beforeFinish : index + 1 < piece.nodes.length)
    (isOtherNode : other.nodes[place]? = some id) : other = piece ∧ place = index := by
  have isPart := isPart_of_mem_pieces isMem
  obtain ⟨isWay, isOwn⟩ := mem_pieces_iff.mp isMem
  obtain ⟨isOtherWay, isOtherOwn⟩ := mem_pieces_iff.mp isOther
  rw [isPart.nodes_length] at beforeFinish
  rw [Piece.nodes_getElem?, Option.ite_none_right_eq_some] at isNode isOtherNode
  obtain ⟨inPiece, isNode⟩ := isNode
  obtain ⟨inOther, isOtherNode⟩ := isOtherNode
  have notCut : isCut contents id = false := by
    have isUncut := isPart.isUncut (piece.start + index) (by omega) (by omega)
    rwa [isNode, Option.any_some] at isUncut
  have sameWay : other.way = piece.way :=
    eq_of_not_isCut isWay isOtherWay (List.mem_of_getElem? isNode)
      (List.mem_of_getElem? isOtherNode) notCut
  rw [sameWay] at isOtherNode isOtherOwn
  have inRange := isPart.inRange
  have samePlace : other.start + place = piece.start + index := by
    by_contra isDifferent
    obtain isBefore | isAfter := Nat.lt_or_gt_of_ne isDifferent
    · have meets := cutWhereMet piece.way isWay _ _ id isBefore isOtherNode isNode
      obtain isCutThere | atEnds := meets
      · exact absurd isCutThere (by rw [notCut]; exact Bool.false_ne_true)
      · omega
    · have meets := cutWhereMet piece.way isWay _ _ id isAfter isNode isOtherNode
      obtain isCutThere | atEnds := meets
      · exact absurd isCutThere (by rw [notCut]; exact Bool.false_ne_true)
      · omega
  have afterPiece : piece.start < piece.start + index := by omega
  have samePiece : other = piece :=
    eq_of_inside (two_le_of_mem_usableWays isWay) isOwn isOtherOwn afterPiece
      (by omega) (by omega) (by omega)
  refine ⟨samePiece, ?_⟩
  rw [samePiece] at samePlace
  omega

end

end Osm
end UrbanFlow.Networks
