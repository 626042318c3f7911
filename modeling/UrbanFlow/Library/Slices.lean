import Mathlib.Data.List.Nodup
import Mathlib.Data.List.Infix

/-!
# Slices of a list

A list cut at ascending indices, and the slices between one cut and the next: each
pair of consecutive entries lies in one slice, and no cut lies inside a slice.
-/

namespace Slices

variable {Item : Type*}

section

variable {cuts : List Nat}

theorem neighbours_of_mem (ascending : cuts.Pairwise (· < ·)) {first second : Nat}
    (isMem : (first, second) ∈ cuts.zip cuts.tail) :
    first ∈ cuts ∧ second ∈ cuts ∧ first < second ∧ ∀ cut ∈ cuts, cut ≤ first ∨ second ≤ cut := by
  induction cuts with
  | nil => simp at isMem
  | cons head rest ih =>
    obtain ⟨isLeast, ascendingRest⟩ := List.pairwise_cons.mp ascending
    cases rest with
    | nil => simp at isMem
    | cons =>
      rw [List.tail_cons, List.zip_cons_cons, List.mem_cons] at isMem
      obtain isHead | isLater := isMem
      · obtain ⟨rfl, rfl⟩ := Prod.mk.inj isHead
        refine ⟨by simp, by simp, isLeast second (by simp), fun cut isCut => ?_⟩
        rw [List.mem_cons, List.mem_cons] at isCut
        obtain rfl | rfl | isCut := isCut
        · exact Or.inl le_rfl
        · exact Or.inr le_rfl
        · exact Or.inr ((List.pairwise_cons.mp ascendingRest).1 cut isCut).le
      · obtain ⟨isFirst, isSecond, isLess, between⟩ := ih ascendingRest isLater
        refine ⟨List.mem_cons_of_mem head isFirst, List.mem_cons_of_mem head isSecond,
          isLess, fun cut isCut => ?_⟩
        obtain rfl | isCut := List.mem_cons.mp isCut
        · exact Or.inl (isLeast first isFirst).le
        · exact between cut isCut

theorem exists_neighbours {first last index : Nat} (isFirst : cuts.head? = some first)
    (isLast : cuts.getLast? = some last) (fromFirst : first ≤ index) (toLast : index < last) :
    ∃ before after, (before, after) ∈ cuts.zip cuts.tail ∧ before ≤ index ∧ index < after := by
  induction cuts generalizing first with
  | nil => cases isFirst
  | cons head rest ih =>
    obtain rfl : head = first := by simpa using isFirst
    cases rest with
    | nil =>
      obtain rfl : head = last := by simpa using isLast
      exact absurd fromFirst (not_le.mpr toLast)
    | cons next =>
      rw [List.getLast?_cons_cons] at isLast
      by_cases isBefore : index < next
      · exact ⟨head, next, by simp, fromFirst, isBefore⟩
      · obtain ⟨before, after, isMem, isNeighbour⟩ := ih rfl isLast (not_lt.mp isBefore)
        refine ⟨before, after, ?_, isNeighbour⟩
        rw [List.tail_cons, List.zip_cons_cons]
        exact List.mem_cons_of_mem _ isMem

theorem nodup_neighbours (ascending : cuts.Pairwise (· < ·)) : (cuts.zip cuts.tail).Nodup := by
  have seconds : ((cuts.zip cuts.tail).map Prod.snd).Nodup := by
    rw [List.map_snd_zip (by simp)]
    exact (ascending.imp fun isLess => isLess.ne).sublist (List.tail_sublist cuts)
  exact seconds.of_map

end

/-- An entry that stands somewhere splits the list there. -/
theorem eq_append_of_getElem? {items : List Item} {index : Nat} {item : Item}
    (isAt : items[index]? = some item) :
    items = items.take index ++ item :: items.drop (index + 1) := by
  obtain ⟨inRange, rfl⟩ := List.getElem?_eq_some_iff.mp isAt
  rw [List.cons_getElem_drop_succ, List.take_append_drop]

/-- Two entries stand side by side where a list splits between them. -/
theorem exists_append_iff {items : List Item} {first second : Item} :
    (∃ before after, items = before ++ first :: second :: after) ↔
      ∃ index, items[index]? = some first ∧ items[index + 1]? = some second := by
  constructor
  · rintro ⟨before, after, rfl⟩
    exact ⟨before.length, by simp, by simp⟩
  · rintro ⟨index, isFirst, isSecond⟩
    refine ⟨items.take index, items.drop (index + 2), ?_⟩
    obtain ⟨inRange, rfl⟩ := List.getElem?_eq_some_iff.mp isSecond
    rw [List.cons_getElem_drop_succ]
    exact eq_append_of_getElem? isFirst

/-- The entries from one index to another, both of them included. -/
def slice (items : List Item) (start finish : Nat) : List Item :=
  (items.drop start).take (finish + 1 - start)

theorem slice_getElem? (items : List Item) (start finish index : Nat) :
    (slice items start finish)[index]? =
      if start + index ≤ finish then items[start + index]? else none := by
  rw [slice, List.getElem?_take, List.getElem?_drop]
  congr 1
  rw [eq_iff_iff]
  omega

/-- How many entries a slice has. -/
theorem slice_length {items : List Item} {start finish : Nat} (inRange : finish < items.length) :
    (slice items start finish).length = finish + 1 - start := by
  rw [slice, List.length_take, List.length_drop]
  omega

end Slices
