import Mathlib.Data.Finset.Insert
import Mathlib.Data.List.ProdSigma
import UrbanFlow.Core.Enums

/-!
# Conflict points

Where the connection lanes of a junction share road. Each pair of lanes has at most
one conflict point, at the closest approach of their sampled paths, and has one just
when these come nearer than the clearance.
-/

namespace UrbanFlow.Intersection

/-- A pair of connection lanes, the smaller id first. -/
abbrev ZoneKey := String × String

/-- `ConflictPoint`: a crossing of two connection lanes. -/
structure ConflictPoint where
  laneIdA : String
  laneIdB : String
  x : ℚ
  y : ℚ
  distOnA : ℚ
  distOnB : ℚ

/-- A connection `Lane`; `pointAt` is `get_point_at_distance`. -/
structure ConnectionLane where
  laneId : String
  length : ℚ
  pointAt : ℚ → ℚ × ℚ
  endCoords : ℚ × ℚ
  length_nonneg : 0 ≤ length

/-- A point of a path with its arc distance. -/
structure PathSample where
  distance : ℚ
  x : ℚ
  y : ℚ

def pathSampleStep : ℚ := 3 / 4

def sampleLane (lane : ConnectionLane) : List PathSample :=
  let steps := max 2 (⌊lane.length / pathSampleStep⌋₊ + 1)
  (List.range (steps + 1)).map fun index : Nat =>
    let distance := lane.length * index / steps
    ⟨distance, (lane.pointAt distance).1, (lane.pointAt distance).2⟩

/-- Samples lie ahead of a lane's start. -/
theorem sampleLane_nonneg {lane : ConnectionLane} {sample : PathSample}
    (member : sample ∈ sampleLane lane) : 0 ≤ sample.distance := by
  unfold sampleLane at member
  obtain ⟨index, _, rfl⟩ := List.mem_map.mp member
  apply div_nonneg
  · exact mul_nonneg lane.length_nonneg (Nat.cast_nonneg index)
  · exact Nat.cast_nonneg _

/-- The closest approach of two paths. -/
structure Approach where
  distA : ℚ
  distB : ℚ
  x : ℚ
  y : ℚ

/-- One comparison of `_closest_approach`: the least squared distance so far, and
where it was found. -/
def considerPair (a : PathSample) (best : ℚ × Option Approach)
    (b : PathSample) : ℚ × Option Approach :=
  let dx := a.x - b.x
  let dy := a.y - b.y
  let gapSq := dx * dx + dy * dy
  if gapSq < best.1 then (gapSq, some ⟨a.distance, b.distance, (a.x + b.x) / 2, (a.y + b.y) / 2⟩)
  else best

def closestApproach (samplesA samplesB : List PathSample) (clearance : ℚ) : Option Approach :=
  (samplesA.foldl (fun best a => samplesB.foldl (considerPair a) best)
    (clearance * clearance, none)).2

/-- An approach ahead of the start of both lanes. -/
def Approach.Ahead (approach : Approach) : Prop := 0 ≤ approach.distA ∧ 0 ≤ approach.distB

theorem closestApproach_ahead {laneA laneB : ConnectionLane} {clearance : ℚ} {approach : Approach}
    (found : closestApproach (sampleLane laneA) (sampleLane laneB) clearance = some approach) :
    approach.Ahead := by
  have kept : ∀ approach ∈ closestApproach (sampleLane laneA) (sampleLane laneB)
        clearance, Approach.Ahead approach := by
    unfold closestApproach
    apply List.foldlRecOn (motive := fun best : ℚ × Option Approach =>
        ∀ approach ∈ best.2, approach.Ahead)
    · exact fun _ => nofun
    · intro best bestAhead a isSampleA
      apply List.foldlRecOn (motive := fun best : ℚ × Option Approach =>
          ∀ approach ∈ best.2, approach.Ahead)
      · exact bestAhead
      intro best bestAhead b isSampleB
      dsimp only [considerPair]
      split
      · rintro approach ⟨rfl⟩
        exact ⟨sampleLane_nonneg isSampleA, sampleLane_nonneg isSampleB⟩
      · exact bestAhead
  exact kept approach found

def gapSq (a b : PathSample) : ℚ := (a.x - b.x) * (a.x - b.x) + (a.y - b.y) * (a.y - b.y)

/-- Two samples are the nearest of two paths, and nearer than the clearance. -/
structure Closest (samplesA samplesB : List PathSample) (clearance : ℚ) (a b : PathSample) :
    Prop where
  onA : a ∈ samplesA
  onB : b ∈ samplesB
  near : gapSq a b < clearance * clearance
  least : ∀ otherA ∈ samplesA, ∀ otherB ∈ samplesB, gapSq a b ≤ gapSq otherA otherB

def approachAt (a b : PathSample) : Approach :=
  ⟨a.distance, b.distance, (a.x + b.x) / 2, (a.y + b.y) / 2⟩

theorem foldl_considerPair (pairs : List (PathSample × PathSample)) (best : ℚ × Option Approach) :
    let after := pairs.foldl (fun best pair => considerPair pair.1 best pair.2) best
    (∀ pair ∈ pairs, after.1 ≤ gapSq pair.1 pair.2) ∧ after.1 ≤ best.1 ∧
      (after = best ∨ ∃ pair ∈ pairs, after.1 < best.1 ∧
        after = (gapSq pair.1 pair.2, some (approachAt pair.1 pair.2))) := by
  induction pairs generalizing best with
  | nil => simp
  | cons pair pairs ih =>
    obtain ⟨least, falls, ended⟩ := ih (considerPair pair.1 best pair.2)
    simp only [List.foldl_cons, List.forall_mem_cons, List.exists_mem_cons_iff]
    by_cases isNear : gapSq pair.1 pair.2 < best.1
    · have isConsidered : considerPair pair.1 best pair.2 =
          (gapSq pair.1 pair.2, some (approachAt pair.1 pair.2)) := if_pos isNear
      rw [isConsidered] at least falls ended ⊢
      refine ⟨⟨falls, least⟩, falls.trans isNear.le, Or.inr ?_⟩
      rcases ended with isPair | ⟨other, isOther, _, isBetween⟩
      · exact Or.inl ⟨falls.trans_lt isNear, isPair⟩
      · exact Or.inr ⟨other, isOther, falls.trans_lt isNear, isBetween⟩
    · have isConsidered : considerPair pair.1 best pair.2 = best := if_neg isNear
      rw [isConsidered] at least falls ended ⊢
      exact ⟨⟨falls.trans (not_lt.mp isNear), least⟩, falls, ended.imp_right Or.inr⟩

theorem closestApproach_spec (samplesA samplesB : List PathSample) (clearance : ℚ) :
    match closestApproach samplesA samplesB clearance with
    | some approach => ∃ a b, Closest samplesA samplesB clearance a b ∧ approach = approachAt a b
    | none => ¬ ∃ a b, Closest samplesA samplesB clearance a b := by
  have isFold : closestApproach samplesA samplesB clearance = ((samplesA ×ˢ samplesB).foldl
      (fun best pair => considerPair pair.1 best pair.2) (clearance * clearance, none)).2 := by
    simp [closestApproach, SProd.sprod, List.product, List.foldl_flatMap, List.foldl_map]
  obtain ⟨least, -, ended⟩ :=
    foldl_considerPair (samplesA ×ˢ samplesB) (clearance * clearance, none)
  rw [isFold]
  rcases ended with isNone | ⟨⟨a, b⟩, isPair, isNear, isBetween⟩
  · rw [isNone] at least ⊢
    rintro ⟨a, b, closest⟩
    exact (least (a, b) (List.mem_product.mpr ⟨closest.onA, closest.onB⟩)).not_gt closest.near
  · rw [isBetween] at least isNear ⊢
    obtain ⟨onA, onB⟩ := List.mem_product.mp isPair
    exact ⟨a, b, ⟨onA, onB, isNear, fun otherA isA otherB isB =>
      least (otherA, otherB) (List.mem_product.mpr ⟨isA, isB⟩)⟩, rfl⟩

/-- The conflict points of a junction and the lanes they lie on. Every key of a lane
has its point, and points lie ahead of their lanes' starts. -/
structure ConflictZones where
  conflictPoints : ZoneKey → Option ConflictPoint
  laneConflicts : String → Finset ZoneKey
  mergeKeys : Finset ZoneKey
  known : ∀ laneId, ∀ key ∈ laneConflicts laneId, (conflictPoints key).isSome
  ahead : ∀ key, ∀ point ∈ conflictPoints key, 0 ≤ point.distOnA ∧ 0 ≤ point.distOnB

namespace ConflictZones

def empty : ConflictZones where
  conflictPoints := fun _ => none
  laneConflicts := fun _ => ∅
  mergeKeys := ∅
  known := fun _ _ => by simp
  ahead := fun _ _ => nofun

/-- `min` and `max` of two lane ids. -/
def zoneKey (idA idB : String) : ZoneKey := if idB < idA then (idB, idA) else (idA, idB)

/-- The point of a pair of lanes at their closest approach. -/
def pointAt (idA idB : String) (approach : Approach) : ConflictPoint :=
  let key := zoneKey idA idB
  let dists := if key.1 = idA then (approach.distA, approach.distB)
    else (approach.distB, approach.distA)
  ⟨key.1, key.2, approach.x, approach.y, dists.1, dists.2⟩

/-- Two lanes end at one point, of the same exit lane. -/
def merges (laneA laneB : ConnectionLane) : Prop :=
  let dx := laneA.endCoords.1 - laneB.endCoords.1
  let dy := laneA.endCoords.2 - laneB.endCoords.2
  dx * dx + dy * dy < 1 / 1000000 * (1 / 1000000)

instance (laneA laneB : ConnectionLane) : Decidable (merges laneA laneB) := by
  unfold merges
  infer_instance

/-- A conflict point is added, to the sets of both its lanes. -/
def add (zones : ConflictZones) (laneA laneB : ConnectionLane) (approach : Approach)
    (isAhead : approach.Ahead) : ConflictZones :=
  let key := zoneKey laneA.laneId laneB.laneId
  { conflictPoints := Function.update zones.conflictPoints key
      (some (pointAt laneA.laneId laneB.laneId approach))
    laneConflicts := fun laneId =>
      if laneId = key.1 ∨ laneId = key.2 then insert key (zones.laneConflicts laneId)
      else zones.laneConflicts laneId
    mergeKeys := if merges laneA laneB then insert key zones.mergeKeys else zones.mergeKeys
    known := by
      intro laneId other member
      by_cases same : other = key
      · subst same
        simp
      · rw [Function.update_of_ne same]
        apply zones.known laneId other
        split at member
        · exact (Finset.mem_insert.mp member).resolve_left same
        · exact member
    ahead := by
      intro other point isPoint
      by_cases same : other = key
      · subst same
        rw [Function.update_self] at isPoint
        cases isPoint
        unfold pointAt
        dsimp only
        split
        · exact isAhead
        · exact isAhead.symm
      · rw [Function.update_of_ne same] at isPoint
        exact zones.ahead other point isPoint }

/-- One pair of lanes of `compute_conflict_points`. -/
def addPair (clearance : ℚ) (laneA : ConnectionLane) (zones : ConflictZones)
    (laneB : ConnectionLane) : ConflictZones :=
  match found : closestApproach (sampleLane laneA) (sampleLane laneB) clearance with
  | none => zones
  | some approach => zones.add laneA laneB approach (closestApproach_ahead found)

/-- `compute_conflict_points` over the lanes that are left. -/
def addLanes (clearance : ℚ) : List ConnectionLane → ConflictZones → ConflictZones
  | [], zones => zones
  | lane :: others, zones => addLanes clearance others (others.foldl (addPair clearance lane) zones)

/-- `compute_conflict_points`, for the registered connection lanes in order. -/
def computeConflictPoints (lanes : List ConnectionLane) (clearance : ℚ) : ConflictZones :=
  addLanes clearance lanes empty

/-- Each pair of lanes, in the order in which they are registered. -/
def lanePairs : List ConnectionLane → List (ConnectionLane × ConnectionLane)
  | [] => []
  | lane :: others => others.map (lane, ·) ++ lanePairs others

theorem computeConflictPoints_foldl (lanes : List ConnectionLane) (clearance : ℚ) :
    computeConflictPoints lanes clearance = (lanePairs lanes).foldl
      (fun zones pair => addPair clearance pair.1 zones pair.2) empty := by
  unfold computeConflictPoints
  generalize empty = zones
  induction lanes generalizing zones with
  | nil => rfl
  | cons lane others ih => rw [addLanes, ih, lanePairs, List.foldl_append, List.foldl_map]

/-- A pair of lanes has a point, at the closest approach of their paths. -/
def Meets (clearance : ℚ) (key : ZoneKey) (point : ConflictPoint)
    (pair : ConnectionLane × ConnectionLane) : Prop :=
  key = zoneKey pair.1.laneId pair.2.laneId ∧
    ∃ a b, Closest (sampleLane pair.1) (sampleLane pair.2) clearance a b ∧
      point = pointAt pair.1.laneId pair.2.laneId (approachAt a b)

/-- The points are those of the pairs of lanes whose paths come nearer than the
clearance, and exactly the two lanes of a point list it. -/
structure Maps (clearance : ℚ) (pairs : List (ConnectionLane × ConnectionLane))
    (zones : ConflictZones) : Prop where
  found : ∀ pair ∈ pairs, ∀ key point, Meets clearance key point pair →
    (zones.conflictPoints key).isSome = true
  closest : ∀ key point, zones.conflictPoints key = some point →
    ∃ pair ∈ pairs, Meets clearance key point pair
  listed : ∀ laneId key, key ∈ zones.laneConflicts laneId ↔
    (zones.conflictPoints key).isSome = true ∧ (laneId = key.1 ∨ laneId = key.2)

theorem Maps.addPair {clearance : ℚ} {pairs : List (ConnectionLane × ConnectionLane)}
    {zones : ConflictZones} (maps : Maps clearance pairs zones)
    (pair : ConnectionLane × ConnectionLane) :
    Maps clearance (pairs ++ [pair]) (addPair clearance pair.1 zones pair.2) := by
  have spec := closestApproach_spec (sampleLane pair.1) (sampleLane pair.2) clearance
  have earlier {key point} (isPoint : zones.conflictPoints key = some point) :
      ∃ other ∈ pairs ++ [pair], Meets clearance key point other := by
    obtain ⟨other, isOther, meets⟩ := maps.closest key point isPoint
    exact ⟨other, List.mem_append_left _ isOther, meets⟩
  have others {key point other} (isOther : other ∈ pairs ++ [pair])
      (meets : Meets clearance key point other) (notPair : ¬ Meets clearance key point pair) :
      (zones.conflictPoints key).isSome = true := by
    obtain isEarlier | isPair := List.mem_append.mp isOther
    · exact maps.found other isEarlier key point meets
    · exact absurd (List.mem_singleton.mp isPair ▸ meets) notPair
  unfold ConflictZones.addPair
  split
  · rename_i notNear
    rw [notNear] at spec
    exact ⟨fun other isOther key point meets => others isOther meets
      fun ⟨_, a, b, closest, _⟩ => spec ⟨a, b, closest⟩, fun _ _ => earlier, maps.listed⟩
  · rename_i approach isNear
    rw [isNear] at spec
    obtain ⟨a, b, closest, rfl⟩ := spec
    constructor
    · intro other isOther key point meets
      by_cases same : key = zoneKey pair.1.laneId pair.2.laneId
      · simp [add, same]
      · simp only [add, Function.update_of_ne same]
        exact others isOther meets fun isPair => same isPair.1
    · intro key point isPoint
      by_cases same : key = zoneKey pair.1.laneId pair.2.laneId
      · subst same
        simp only [add, Function.update_self] at isPoint
        cases isPoint
        exact ⟨pair, by simp, rfl, a, b, closest, rfl⟩
      · simp only [add, Function.update_of_ne same] at isPoint
        exact earlier isPoint
    · intro laneId key
      by_cases same : key = zoneKey pair.1.laneId pair.2.laneId
      · subst same
        simp only [add, Function.update_self, Option.isSome_some, true_and]
        split
        · simpa
        · simp_all [maps.listed]
      · simp only [add, Function.update_of_ne same, ← maps.listed]
        split <;> simp [same]

/-- Every lane knows of the lanes whose paths share road with its own. -/
theorem computeConflictPoints_maps (lanes : List ConnectionLane) (clearance : ℚ) :
    Maps clearance (lanePairs lanes) (computeConflictPoints lanes clearance) := by
  rw [computeConflictPoints_foldl]
  induction lanePairs lanes using List.reverseRecOn with
  | nil => exact ⟨nofun, nofun, by simp [empty]⟩
  | append_singleton pairs pair ih =>
    rw [List.foldl_append]
    exact ih.addPair pair

end ConflictZones
end UrbanFlow.Intersection
