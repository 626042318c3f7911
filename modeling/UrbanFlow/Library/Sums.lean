import Mathlib.Algebra.BigOperators.Group.List.Basic
import Mathlib.Data.List.Chain
import Mathlib.Tactic.Abel
import Mathlib.Tactic.Ring

/-!
# Sums along lists

What a fold adds up, sums over the items that satisfy a predicate, sums in two
orders, and the consecutive pairs of a list.
-/

namespace Sums

variable {State Item Other Value : Type*}

section

variable [AddCommMonoid Value]

theorem measure_foldl {step : State → Item → State} (measure : State → Value)
    (added : Item → Value) {items : List Item}
    (adds : ∀ item ∈ items, ∀ state, measure (step state item) = measure state + added item)
    (state : State) : measure (items.foldl step state) = measure state + (items.map added).sum := by
  induction items generalizing state with
  | nil => simp
  | cons item _ ih =>
    rw [List.foldl_cons, ih (fun other isOther =>
        adds other (List.mem_cons_of_mem item isOther)),
      adds item List.mem_cons_self, List.map_cons, List.sum_cons, add_assoc]

theorem sum_map_filter (selected : Item → Prop) [DecidablePred selected] (value : Item → Value)
    (items : List Item) : ((items.filter fun item => selected item).map value).sum =
      (items.map fun item => if selected item then value item else 0).sum := by
  induction items with
  | nil => rfl
  | cons item _ ih => by_cases isSelected : selected item <;> simp [isSelected, ih]

/-- A sum over two lists, in either order. -/
theorem sum_map_comm (value : Item → Other → Value) (items : List Item) (others : List Other) :
    (items.map fun item => (others.map fun other => value item other).sum).sum =
      (others.map fun other => (items.map fun item => value item other).sum).sum := by
  induction items with
  | nil => simp
  | cons _ _ ih => simp only [List.map_cons, List.sum_cons, ih, List.sum_map_add]

theorem sum_map_update {Key Entry : Type*} [DecidableEq Key] {keys : List Key}
    (nodup : keys.Nodup) {key : Key} (isKey : key ∈ keys) (table : Key → Entry) (entry : Entry)
    (measure : Entry → Value) :
    (keys.map fun other => measure (Function.update table key entry other)).sum +
        measure (table key) =
      (keys.map fun other => measure (table other)).sum + measure entry := by
  induction keys with
  | nil => cases isKey
  | cons first rest ih =>
    obtain ⟨notLater, restNodup⟩ := List.nodup_cons.mp nodup
    simp only [List.map_cons, List.sum_cons]
    rcases List.mem_cons.mp isKey with rfl | isLater
    · have same : (rest.map fun other =>
          measure (Function.update table key entry other)) =
            rest.map fun other => measure (table other) := by
        apply List.map_congr_left
        intro other isOther
        have differs : other ≠ key := fun same => notLater (same ▸ isOther)
        rw [Function.update_of_ne differs]
      rw [same, Function.update_self]
      abel
    · have differs : first ≠ key := fun same => notLater (same ▸ isLater)
      rw [Function.update_of_ne differs, add_assoc, ih restNodup isLater, add_assoc]

end

/-- A constant summed over the items that satisfy a predicate. -/
theorem sum_map_ite_const [CommSemiring Value] (selected : Item → Prop) [DecidablePred selected]
    (value : Value) (items : List Item) :
    (items.map fun item => if selected item then value else 0).sum =
      (items.countP fun item => selected item) * value := by
  induction items with
  | nil => simp
  | cons item _ ih =>
    by_cases isSelected : selected item
    · simp only [List.map_cons, List.sum_cons, isSelected, if_true,
        ih, List.countP_cons, decide_true, Nat.cast_add,
        Nat.cast_one]
      ring
    · simp [isSelected, ih]

/-- The first items of the consecutive pairs. -/
theorem map_fst_zip_tail (items : List Item) :
    (items.zip items.tail).map Prod.fst = items.dropLast := by
  induction items with
  | nil => rfl
  | cons _ items ih =>
    cases items with
    | nil => rfl
    | cons => simpa using ih

/-- The second items of the consecutive pairs. -/
theorem map_snd_zip_tail (items : List Item) :
    (items.zip items.tail).map Prod.snd = items.tail := by
  induction items with
  | nil => rfl
  | cons _ items ih =>
    cases items with
    | nil => rfl
    | cons => simpa using ih

theorem isChain_of_zip_tail {related : Item → Item → Prop} {items : List Item}
    (areRelated : ∀ pair ∈ items.zip items.tail, related pair.1 pair.2) :
    items.IsChain related := by
  induction items with
  | nil => exact List.isChain_nil
  | cons item items ih =>
    cases items with
    | nil => exact List.isChain_singleton item
    | cons next =>
      rw [List.isChain_cons_cons]
      refine ⟨areRelated (item, next) (by simp), ih ?_⟩
      intro pair isPair
      exact areRelated pair (by
        simp only [List.tail_cons, List.zip_cons_cons, List.mem_cons]
        exact Or.inr isPair)

end Sums
