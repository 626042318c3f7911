import Mathlib.Algebra.Order.BigOperators.Group.List

/-!
# Fallible computations

A sequence of fallible steps is taken apart one step at a time, and a fallible pass
over a list one item at a time. What the results of a pass weigh together is bounded by
what each item may add.
-/

namespace UrbanFlow

section

variable {E A B : Type} {first : Except E A} {rest : A → Except E B}

/-- A sequence of fallible steps succeeds when each of them does. -/
theorem bind_ok_iff {result : B} :
    (first >>= rest) = .ok result ↔ ∃ value, first = .ok value ∧ rest value = .ok result := by
  cases first with
  | error message | ok value => simp [bind, Except.bind]

/-- Two steps return when the first does and the second does after it. -/
theorem exists_bind_iff : (∃ result, (first >>= rest) = .ok result) ↔
      ∃ value, first = .ok value ∧ ∃ result, rest value = .ok result := by
  constructor
  · rintro ⟨result, isResult⟩
    obtain ⟨value, isValue, isRest⟩ := bind_ok_iff.mp isResult
    exact ⟨value, isValue, result, isRest⟩
  · rintro ⟨value, isValue, result, isRest⟩
    exact ⟨result, bind_ok_iff.mpr ⟨value, isValue, isRest⟩⟩

end

/-- What is made of one of several items is made of an item among them. -/
theorem exists_of_mem_mapM {Error Item Entry : Type} {read : Item → Except Error Entry}
    {items : List Item} {entries : List Entry} (isRead : items.mapM read = .ok entries)
    {entry : Entry} (isEntry : entry ∈ entries) : ∃ item ∈ items, read item = .ok entry := by
  induction items generalizing entries with
  | nil =>
    cases isRead
    cases isEntry
  | cons item _ ih =>
    rw [List.mapM_cons] at isRead
    obtain ⟨first, isFirst, isRead⟩ := bind_ok_iff.mp isRead
    obtain ⟨others, isOthers, isAll⟩ := bind_ok_iff.mp isRead
    cases isAll
    obtain rfl | isOther := List.mem_cons.mp isEntry
    · exact ⟨item, List.mem_cons_self, isFirst⟩
    · obtain ⟨other, isMember, isHere⟩ := ih isOthers isOther
      exact ⟨other, List.mem_cons_of_mem _ isMember, isHere⟩

section

variable {Error Item Result : Type} {make : Item → Except Error Result} {items : List Item}

theorem exists_mapM (made : ∀ item ∈ items, ∃ result, make item = .ok result) :
    ∃ results, items.mapM make = .ok results := by
  induction items with
  | nil => exact ⟨[], rfl⟩
  | cons item _ ih =>
    obtain ⟨result, isResult⟩ := made item List.mem_cons_self
    obtain ⟨results, areResults⟩ := ih fun other isOther =>
      made other (List.mem_cons_of_mem item isOther)
    refine ⟨result :: results, ?_⟩
    rw [List.mapM_cons]
    exact bind_ok_iff.mpr ⟨result, isResult, bind_ok_iff.mpr ⟨results, areResults, rfl⟩⟩

section

variable {results : List Result} (made : items.mapM make = .ok results)

include made

theorem forall₂_of_mapM :
    List.Forall₂ (fun item result => make item = .ok result) items results := by
  induction items generalizing results with
  | nil =>
    cases made
    exact List.Forall₂.nil
  | cons _ _ ih =>
    rw [List.mapM_cons] at made
    obtain ⟨result, isResult, made⟩ := bind_ok_iff.mp made
    obtain ⟨others, areOthers, made⟩ := bind_ok_iff.mp made
    cases made
    exact List.Forall₂.cons isResult (ih areOthers)

/-- What has been made of an item of a list. -/
theorem exists_result_of_mem {item : Item}
    (isItem : item ∈ items) : ∃ result ∈ results, make item = .ok result := by
  have itemByItem := forall₂_of_mapM made
  clear made
  induction itemByItem with
  | nil => cases isItem
  | cons isResult _ ih =>
    obtain rfl | isOther := List.mem_cons.mp isItem
    · exact ⟨_, List.mem_cons_self, isResult⟩
    · obtain ⟨result, isLater, isMade⟩ := ih isOther
      exact ⟨result, List.mem_cons_of_mem _ isLater, isMade⟩

end

/-- A pass over a list succeeds when it does for every item. -/
theorem exists_mapM_iff : (∃ results, items.mapM make = .ok results) ↔
      ∀ item ∈ items, ∃ result, make item = .ok result := by
  constructor
  · rintro ⟨results, made⟩ item isItem
    obtain ⟨result, -, isMade⟩ := exists_result_of_mem made isItem
    exact ⟨result, isMade⟩
  · exact exists_mapM

theorem length_of_mapM {results : List Result} (made : items.mapM make = .ok results) :
    results.length = items.length :=
  (forall₂_of_mapM made).length_eq.symm

end

section Weights

variable {Error Item Result Weight : Type}
variable [AddCommMonoid Weight] [PartialOrder Weight] [IsOrderedAddMonoid Weight]
variable {items : List Item}

theorem sum_map_le_of_mapM {make : Item → Except Error Result} {results : List Result}
    (made : items.mapM make = .ok results) {weight : Result → Weight} {bound : Weight}
    (bounded : ∀ result ∈ results, weight result ≤ bound) :
    (results.map weight).sum ≤ items.length • bound := by
  have sameLength : (results.map weight).length = items.length := by
    rw [List.length_map, length_of_mapM made]
  rw [← sameLength]
  apply List.sum_le_card_nsmul
  intro value isValue
  obtain ⟨result, isResult, rfl⟩ := List.mem_map.mp isValue
  exact bounded result isResult

theorem sum_map_flatten_le_of_mapM {make : Item → Except Error (List Result)}
    {lists : List (List Result)} (made : items.mapM make = .ok lists) {weight : Result → Weight}
    {bound : Item → Weight} (bounded : ∀ item ∈ items, ∀ results, make item = .ok results →
      (results.map weight).sum ≤ bound item) :
    (lists.flatten.map weight).sum ≤ (items.map bound).sum := by
  have itemByItem := forall₂_of_mapM made
  clear made
  induction itemByItem with
  | nil => simp
  | cons isMade _ ih =>
    rw [List.flatten_cons, List.map_append, List.sum_append, List.map_cons, List.sum_cons]
    apply add_le_add (bounded _ List.mem_cons_self _ isMade)
    exact ih fun item isItem => bounded item (List.mem_cons_of_mem _ isItem)

end Weights

end UrbanFlow
