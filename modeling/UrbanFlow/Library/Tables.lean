import Mathlib.Data.List.Nodup
import Mathlib.Data.List.Perm.Basic

/-!
# Tables

Tables of records, memo tables, and dictionaries from which keys are evicted.
-/

/-!
## Tables of records

A table is a list that is changed one record at a time and grows at its end. The
rules say what such a change does to a property of every record, to the record
at an index and to how many records satisfy a predicate.
-/

namespace Tables

variable {Item : Type*} {items : List Item} {index : Nat} {item : Item}

/-- Changing one item of a list changes how many satisfy a predicate by it. -/
theorem countP_modify (keep : Item → Prop) [DecidablePred keep] (update : Item → Item)
    (found : items[index]? = some item) :
    ((items.modify index update).countP fun other => keep other) + (if keep item then 1 else 0) =
      (items.countP fun other => keep other) + if keep (update item) then 1 else 0 := by
  induction items generalizing index with
  | nil => simp at found
  | cons first _ ih =>
    cases index with
    | zero =>
      obtain rfl : first = item := by simpa using found
      simp only [List.modify_zero_cons, List.countP_cons, decide_eq_true_eq]
      omega
    | succ =>
      have rest := ih (by simpa using found)
      simp only [List.modify_succ_cons, List.countP_cons]
      omega

/-- A change that satisfies a predicate no more often than before. -/
theorem countP_modify_le {keep : Item → Prop} [DecidablePred keep] {update : Item → Item}
    (found : items[index]? = some item) (noMore : keep (update item) → keep item) :
    ((items.modify index update).countP fun other => keep other) ≤
      items.countP fun other => keep other := by
  have counted := countP_modify keep update found
  by_cases after : keep (update item)
  · simp only [after, noMore after, if_true] at counted
    omega
  · simp only [after, if_false] at counted
    omega

section

variable {holds : Item → Prop} {update : Item → Item}

theorem forall_modify (all : ∀ other ∈ items, holds other) (found : items[index]? = some item)
    (kept : holds (update item)) : ∀ other ∈ items.modify index update, holds other := by
  intro other member
  obtain ⟨place, atPlace⟩ := List.mem_iff_getElem?.mp member
  rw [List.getElem?_modify] at atPlace
  by_cases same : index = place
  · subst same
    obtain rfl : update item = other := by simpa [found] using atPlace
    exact kept
  · exact all other (List.mem_of_getElem? (by simpa [same] using atPlace))

/-- The items at other places are left as they were, and so is what they
satisfy; the changed item keeps what it satisfied where the change does. -/
theorem exists_modify {place : Nat} (held : ∃ other, items[place]? = some other ∧ holds other)
    (found : items[index]? = some item) (kept : index = place → holds item → holds (update item)) :
    ∃ other, (items.modify index update)[place]? = some other ∧ holds other := by
  obtain ⟨other, atPlace, holdsThere⟩ := held
  by_cases same : index = place
  · subst same
    obtain rfl : item = other := by simpa [found] using atPlace
    exact ⟨update item, by simp [found], kept rfl holdsThere⟩
  · exact ⟨other, by simp [same, atPlace], holdsThere⟩

end

/-- What is in the table stays there when the table grows. -/
theorem exists_append {holds : Item → Prop} {place : Nat}
    (held : ∃ other, items[place]? = some other ∧ holds other) (more : List Item) :
    ∃ other, (items ++ more)[place]? = some other ∧ holds other := by
  obtain ⟨other, atPlace, holdsThere⟩ := held
  have inRange : place < items.length := (List.getElem?_eq_some_iff.mp atPlace).1
  exact ⟨other, by rwa [List.getElem?_append_left inRange], holdsThere⟩

end Tables

/-!
## Memo tables

A memo table keeps results of earlier work by key. While everything it keeps is
right for its key, so is everything it keeps after more right results have been
recorded.
-/

namespace Memo

variable {Key Value : Type*}

variable {right : Key → Value → Prop} {table : Key → Option Value}

/-- A table without results. -/
def empty : Key → Option Value := fun _ => none

/-- Everything a table keeps is right for its key. -/
def Sound (right : Key → Value → Prop) (table : Key → Option Value) : Prop :=
  ∀ key value, table key = some value → right key value

theorem sound_empty (right : Key → Value → Prop) : Sound right empty := by
  intro key value isKept
  cases isKept

/-- Every result in another form. -/
theorem Sound.map (sound : Sound right table) (change : Value → Value)
    (kept : ∀ key value, right key value → right key (change value)) :
    Sound right fun key => (table key).map change := by
  intro key value isKept
  obtain ⟨old, wasKept, rfl⟩ := Option.map_eq_some_iff.mp isKept
  exact kept key old (sound key old wasKept)

variable [DecidableEq Key]

/-- The table with some more results, of later ones under a key the last. -/
def record (table : Key → Option Value) (results : List (Key × Value)) : Key → Option Value :=
  results.foldl (fun table result => Function.update table result.1 (some result.2)) table

theorem Sound.record (sound : Sound right table) {results : List (Key × Value)}
    (areRight : ∀ result ∈ results, right result.1 result.2) :
    Sound right (Memo.record table results) := by
  induction results generalizing table with
  | nil => exact sound
  | cons result _ ih =>
    have stillSound : Sound right (Function.update table result.1 (some result.2)) := by
      intro key value isKept
      by_cases isKey : key = result.1
      · subst isKey
        rw [Function.update_self] at isKept
        cases isKept
        exact areRight result List.mem_cons_self
      · rw [Function.update_of_ne isKey] at isKept
        exact sound key value isKept
    exact ih stillSound fun other isOther => areRight other (List.mem_cons_of_mem _ isOther)

end Memo

/-!
## Evicting keys from a dictionary

A dictionary is a list of items with distinct keys. Evicting a list of keys
leaves the items of the other keys; where the victims are the first of a sorted
list, whoever stays on that list comes after every victim.
-/

namespace Eviction

variable {Item Key Rank : Type*} [DecidableEq Key]

/-- The items whose keys are not among the victims. -/
def without (keyOf : Item → Key) (victims : List Key) (items : List Item) : List Item :=
  items.filter fun item => keyOf item ∉ victims

@[simp] theorem mem_without {keyOf : Item → Key} {victims : List Key} {items : List Item}
    {item : Item} : item ∈ without keyOf victims items ↔ item ∈ items ∧ keyOf item ∉ victims := by
  simp [without]

theorem without_sublist (keyOf : Item → Key) (victims : List Key) (items : List Item) :
    (without keyOf victims items).Sublist items :=
  List.filter_sublist

section

variable {keyOf : Item → Key} {victims : List Key} {items : List Item}
  (distinct : (items.map keyOf).Nodup) (distinctVictims : victims.Nodup)
  (held : victims ⊆ items.map keyOf)

include distinct distinctVictims held

theorem countP_victims : items.countP (fun item => keyOf item ∈ victims) = victims.length := by
  have same : ((items.map keyOf).filter (· ∈ victims)).Perm victims := by
    rw [List.perm_ext_iff_of_nodup (distinct.filter _) distinctVictims]
    intro key
    simp only [List.mem_filter, decide_eq_true_eq, and_iff_right_iff_imp]
    exact fun victim => held victim
  rw [← same.length_eq, ← List.countP_eq_length_filter, List.countP_map]
  rfl

theorem length_without : (without keyOf victims items).length + victims.length = items.length := by
  have split := List.length_eq_countP_add_countP
    (fun item => decide (keyOf item ∈ victims)) (l := items)
  rw [countP_victims distinct distinctVictims held] at split
  have rest : (without keyOf victims items).length =
      items.countP fun item => ¬ decide (keyOf item ∈ victims) = true := by
    simp [without, List.countP_eq_length_filter]
  omega

end

theorem relation_of_take {relation : Rank → Rank → Prop} {ranks : List Rank} {count : Nat}
    {taken stays : Rank} (sorted : ranks.Pairwise relation) (isTaken : taken ∈ ranks.take count)
    (isRanked : stays ∈ ranks) (isNotTaken : stays ∉ ranks.take count) : relation taken stays := by
  rw [← List.take_append_drop count ranks] at sorted isRanked
  have dropped : stays ∈ ranks.drop count := (List.mem_append.mp isRanked).resolve_left isNotTaken
  exact (List.pairwise_append.mp sorted).2.2 taken isTaken stays dropped

end Eviction
