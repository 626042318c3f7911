import Mathlib.Algebra.BigOperators.Group.Finset.Piecewise
import Mathlib.Data.Finmap

/-!
# Dictionaries

A dictionary whose order nothing reads is a finite map. `valueAt` reads it with
a value for the keys it lacks, `total` adds a measure over the keys of a kind.
Where each key's measure counts the items filed under it, the total counts the
items filed under any of them.
-/

/-- A dictionary, up to the order of its keys. -/
abbrev Dict (Key Value : Type*) := Finmap fun _ : Key => Value

namespace Dict

variable {Key Value Item : Type*} [DecidableEq Key]

/-- The value of a key, with one for the keys the dictionary lacks. -/
def valueAt (fallback : Value) (dict : Dict Key Value) (key : Key) : Value :=
  (dict.lookup key).getD fallback

@[simp] theorem valueAt_insert (fallback value : Value) (dict : Dict Key Value) (key : Key) :
    valueAt fallback (dict.insert key value) =
      Function.update (valueAt fallback dict) key value := by
  funext other
  by_cases same : other = key
  · subst same
    simp [valueAt]
  · simp [valueAt, Finmap.lookup_insert_of_ne dict same, same]

/-- The sum of a measure over the keys of a kind. -/
def total (measure : Value → Nat) (kind : Key → Prop) [DecidablePred kind] (fallback : Value)
    (dict : Dict Key Value) : Nat :=
  ∑ key ∈ dict.keys.filter kind, measure (valueAt fallback dict key)

theorem sum_countP (items : List Item) (keyOf : Item → Key) (keep : Item → Prop)
    [DecidablePred keep] (keys : Finset Key) :
    ∑ key ∈ keys, items.countP (fun item => keyOf item = key ∧ keep item) =
      items.countP fun item => keyOf item ∈ keys ∧ keep item := by
  induction items with
  | nil => simp
  | cons item _ ih =>
    simp only [List.countP_cons, Finset.sum_add_distrib, ih]
    congr 1
    by_cases kept : keep item
    · simp [kept]
    · simp [kept]

/-- Where each key's measure counts the items filed under it, and every item is
filed under a key of the dictionary, the total counts the items of its kind. -/
theorem total_eq_countP {measure : Value → Nat} {kind : Key → Prop} [DecidablePred kind]
    {fallback : Value} {dict : Dict Key Value} {items : List Item} {keyOf : Item → Key}
    {keep : Item → Prop} [DecidablePred keep] (counts : ∀ key, measure (valueAt fallback dict key) =
      items.countP fun item => keyOf item = key ∧ keep item)
    (filed : ∀ item ∈ items, keyOf item ∈ dict) :
    total measure kind fallback dict = items.countP fun item => kind (keyOf item) ∧ keep item := by
  unfold total
  rw [Finset.sum_congr rfl fun key _ => counts key, sum_countP]
  apply List.countP_congr
  intro item member
  simp [Finmap.mem_keys, filed item member]

/-! ## The order of insertion

Where the order of the keys is read, a dictionary is a list. -/

/-- `dict[key] = change(dict.get(key, fallback))`. -/
def upsert (change : Value → Value) (fallback : Value) (key : Key) :
    List (Key × Value) → List (Key × Value)
  | [] => [(key, change fallback)]
  | (other, value) :: rest =>
    if other = key then (other, change value) :: rest
    else (other, value) :: upsert change fallback key rest

section

attribute [local simp] upsert

variable {change : Value → Value} {fallback : Value} {key other : Key}
  {entries : List (Key × Value)}

theorem lookup_upsert_self : (upsert change fallback key entries).lookup key =
    some (change ((entries.lookup key).getD fallback)) := by
  induction entries with
  | nil => simp
  | cons entry _ ih =>
    obtain ⟨first, value⟩ := entry
    by_cases same : first = key
    · simp [same]
    · simpa [same, List.lookup_cons, beq_eq_false_iff_ne.mpr (Ne.symm same)] using ih

theorem lookup_upsert_of_ne (differs : other ≠ key) :
    (upsert change fallback key entries).lookup other = entries.lookup other := by
  induction entries with
  | nil => simp [List.lookup_cons, beq_eq_false_iff_ne.mpr differs]
  | cons entry _ ih =>
    obtain ⟨first, value⟩ := entry
    by_cases same : first = key
    · simp [same, List.lookup_cons, beq_eq_false_iff_ne.mpr differs]
    · simp [same, List.lookup_cons, ih]

theorem mem_keys_upsert : other ∈ (upsert change fallback key entries).map Prod.fst ↔
    other = key ∨ other ∈ entries.map Prod.fst := by
  induction entries with
  | nil => simp
  | cons _ _ ih =>
    simp only [upsert]
    split_ifs with same
    · simp [same]
    · simp only [List.map_cons, List.mem_cons, ih, or_left_comm]

theorem upsert_of_notMem (isNew : key ∉ entries.map Prod.fst) :
    upsert change fallback key entries = entries ++ [(key, change fallback)] := by
  induction entries with
  | nil => rfl
  | cons _ _ ih =>
    obtain ⟨differs, isNew⟩ := not_or.mp (mt List.mem_cons.mpr isNew)
    rw [upsert, if_neg (Ne.symm differs), ih isNew, List.cons_append]

theorem lookup_map_of_mem {f : Key → Value} {keys : List Key} (isKey : key ∈ keys) :
    (keys.map fun key => (key, f key)).lookup key = some (f key) := by
  induction keys with
  | nil => cases isKey
  | cons first _ ih =>
    by_cases same : key = first
    · simp [same]
    · simpa [List.lookup_cons, beq_eq_false_iff_ne.mpr same] using
        ih ((List.mem_cons.mp isKey).resolve_left same)

/-- A dictionary of images. -/
theorem upsert_map {f : Value → Item} {change' : Item → Item}
    (same : ∀ value, change' (f value) = f (change value)) :
    upsert change' (f fallback) key (entries.map (Prod.map id f)) =
      (upsert change fallback key entries).map (Prod.map id f) := by
  induction entries with
  | nil => simp [same]
  | cons _ _ ih =>
    simp only [List.map_cons, upsert, Prod.map, id_eq]
    split_ifs
    · simp [same]
    · simp only [List.map_cons, Prod.map, id_eq, ← ih]

theorem upsert_cons_perm (item : Item) (key : Key) (entries : List (Key × List Item)) :
    ((upsert (item :: ·) [] key entries).flatMap Prod.snd).Perm
      (item :: entries.flatMap Prod.snd) := by
  induction entries with
  | nil => simp
  | cons entry _ ih =>
    simp only [upsert]
    split_ifs
    · simp
    · exact (ih.append_left entry.2).trans List.perm_middle

end

end Dict
