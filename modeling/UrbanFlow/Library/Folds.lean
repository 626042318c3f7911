import Mathlib.Data.List.Nodup
import Mathlib.Order.MinMax

/-!
# Folds over a state

A view that no step changes is what it was after the whole fold, and a fold that
updates a table at each key once leaves at a key what the step for that key
makes of it. A list whose keys are its own is read back whole when each of its
values is.
-/

namespace Folds

variable {State Item View Key Value : Type*}

section

variable {step : State → Item → State}

variable {items : List Item}

/-- What no step of a fold changes, the fold does not change. -/
theorem foldl_frame (view : State → View)
    (unchanged : ∀ item ∈ items, ∀ state, view (step state item) = view state) (state : State) :
    view (items.foldl step state) = view state := by
  induction items generalizing state with
  | nil => rfl
  | cons item _ ih =>
    rw [List.foldl_cons, ih fun other isOther =>
        unchanged other (List.mem_cons_of_mem item isOther),
      unchanged item List.mem_cons_self]

theorem foldl_keeps (kept : State → Prop)
    (preserved : ∀ item ∈ items, ∀ state, kept state → kept (step state item)) {state : State}
    (initially : kept state) : kept (items.foldl step state) := by
  induction items generalizing state with
  | nil => exact initially
  | cons item _ ih =>
    exact ih (fun other isOther => preserved other (List.mem_cons_of_mem item isOther))
      (preserved item List.mem_cons_self state initially)

/-- Items that leave every state as it is may be left out of a fold. -/
theorem foldl_filter_of_inert {acts : Item → Bool}
    (inert : ∀ item ∈ items, acts item = false → ∀ state, step state item = state) (state : State) :
    (items.filter acts).foldl step state = items.foldl step state := by
  induction items generalizing state with
  | nil => rfl
  | cons item _ ih =>
    have later := ih fun other isOther => inert other (List.mem_cons_of_mem item isOther)
    cases isActing : acts item with
    | true =>
      rw [List.filter_cons_of_pos isActing, List.foldl_cons, List.foldl_cons]
      exact later (step state item)
    | false =>
      rw [List.filter_cons_of_neg (by simp [isActing]), List.foldl_cons,
        inert item List.mem_cons_self isActing]
      exact later state

/-- What holds after a fold when some step makes it hold, and nothing undoes it. -/
theorem foldl_iff_exists (holds : State → Prop) {made : Item → Prop}
    (steps : ∀ item ∈ items, ∀ state, holds (step state item) ↔ holds state ∨ made item)
    (state : State) : holds (items.foldl step state) ↔ holds state ∨ ∃ item ∈ items, made item := by
  induction items generalizing state with
  | nil => simp
  | cons item _ ih =>
    rw [List.foldl_cons, ih fun other isOther =>
        steps other (List.mem_cons_of_mem item isOther),
      steps item List.mem_cons_self]
    simp [or_assoc]

end

theorem foldl_update [DecidableEq Key] {keys : List Key} (nodup : keys.Nodup)
    (step : Key → Value → Value) (table : Key → Value) (key : Key) :
    keys.foldl (fun table key => Function.update table key (step key (table key))) table key =
      if key ∈ keys then step key (table key) else table key := by
  induction keys generalizing table with
  | nil => rfl
  | cons first _ ih =>
    obtain ⟨isNew, nodupLater⟩ := List.nodup_cons.mp nodup
    rw [List.foldl_cons, ih nodupLater]
    by_cases same : key = first
    · simp [same, isNew]
    · simp [same]

/-- The result of a step that may fail. -/
def updateAt [DecidableEq Key] (step : Key → Value → Option Value) (table : Key → Value)
    (key : Key) : Option (Key → Value) :=
  (step key (table key)).map (Function.update table key)

section

variable [DecidableEq Key] {step : Key → Value → Option Value} {keys : List Key}
  {table after : Key → Value} {key : Key}

theorem foldlM_updateAt_of_not_mem (notMem : key ∉ keys)
    (isAfter : keys.foldlM (updateAt step) table = some after) : after key = table key := by
  induction keys generalizing table with
  | nil =>
    cases isAfter
    rfl
  | cons _ _ ih =>
    rw [List.mem_cons, not_or] at notMem
    obtain ⟨notFirst, notLater⟩ := notMem
    rw [List.foldlM_cons, Option.bind_eq_bind, Option.bind_eq_some_iff] at isAfter
    obtain ⟨middle, isMiddle, isLater⟩ := isAfter
    obtain ⟨value, _, rfl⟩ := Option.map_eq_some_iff.mp isMiddle
    rw [ih notLater isLater, Function.update_of_ne notFirst]

/-- A fold that updates every key of a list once leaves at each what its step
makes of it. -/
theorem foldlM_updateAt_of_mem (nodup : keys.Nodup) (isMem : key ∈ keys)
    (isAfter : keys.foldlM (updateAt step) table = some after) :
    step key (table key) = some (after key) := by
  induction keys generalizing table with
  | nil => simp at isMem
  | cons first _ ih =>
    obtain ⟨isNew, nodupLater⟩ := List.nodup_cons.mp nodup
    rw [List.foldlM_cons, Option.bind_eq_bind, Option.bind_eq_some_iff] at isAfter
    obtain ⟨middle, isMiddle, isLater⟩ := isAfter
    obtain ⟨value, isValue, rfl⟩ := Option.map_eq_some_iff.mp isMiddle
    obtain rfl | isLaterKey := List.mem_cons.mp isMem
    · rw [isValue, foldlM_updateAt_of_not_mem isNew isLater, Function.update_self]
    · have notFirst : key ≠ first := by
        rintro rfl
        exact isNew isLaterKey
      have isStep := ih nodupLater isLaterKey isLater
      rwa [Function.update_of_ne notFirst] at isStep

end

/-- A reading that keeps the keys of a list without repeated keys gives the list
back, up to order, just when it gives back each of its values. -/
theorem filterMap_perm_iff_of_keys {key : Value → Key} {reading : Value → Option Value}
    {values : List Value} (nodup : (values.map key).Nodup)
    (keepsKeys : ∀ value ∈ values, ∀ other, reading value = some other → key other = key value) :
    (values.filterMap reading).Perm values ↔ ∀ value ∈ values, reading value = some value := by
  constructor
  · intro isPerm value isMem
    have allRead := List.filterMap_length_eq_length.mp isPerm.length_eq
    obtain ⟨other, isOther⟩ := Option.isSome_iff_exists.mp (allRead value isMem)
    have otherMem : other ∈ values := isPerm.subset (List.mem_filterMap.mpr ⟨value, isMem, isOther⟩)
    rw [isOther, List.inj_on_of_nodup_map nodup otherMem isMem
      (keepsKeys value isMem other isOther)]
  · intro readsBack
    rw [List.filterMap_congr readsBack, List.filterMap_some]

theorem le_max_of_mem [LinearOrder Value] {values : List Value} {value fallback : Value}
    (isMem : value ∈ values) : value ≤ values.max?.getD fallback := by
  obtain ⟨most, isMost⟩ := Option.isSome_iff_exists.mp (List.isSome_max?_of_mem isMem)
  rw [isMost, Option.getD_some]
  exact (List.max?_eq_some_iff.mp isMost).2 value isMem

end Folds
