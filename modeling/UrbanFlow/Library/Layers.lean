import Mathlib.Data.Nat.Find
import Mathlib.Order.Bounds.Basic

/-!
# Layers of a strict order

The layer of an item is the length of the longest chain of items above it. Where a
measure grows along the order, every item has a layer; the first layer has the items
with nothing above, and each later one those with an item of the layer before above
and nothing of this layer or a later one.
-/

namespace Layers

variable {Item : Type*} {above : Item → Item → Prop}

variable {item : Item} {length : Nat}

inductive Chain (above : Item → Item → Prop) : Item → Nat → Prop
  | nil (item : Item) : Chain above item 0
  | cons {item higher : Item} {length : Nat} (isAbove : above higher item)
      (isChain : Chain above higher length) :
      Chain above item (length + 1)

/-- The longest chain above an item has this length. -/
def Layer (above : Item → Item → Prop) (item : Item) (layer : Nat) : Prop :=
  IsGreatest {length | Chain above item length} layer

theorem chain_zero (item : Item) : Chain above item 0 := Chain.nil item

theorem chain_succ : Chain above item (length + 1) ↔
      ∃ higher, above higher item ∧ Chain above higher length := by
  constructor
  · rintro (_ | ⟨isAbove, isChain⟩)
    exact ⟨_, isAbove, isChain⟩
  · rintro ⟨higher, isAbove, isChain⟩
    exact .cons isAbove isChain

theorem Chain.mono {short long : Nat} (isChain : Chain above item long) (shorter : short ≤ long) :
    Chain above item short := by
  induction isChain generalizing short with
  | nil item =>
    obtain rfl := Nat.le_zero.mp shorter
    exact .nil item
  | cons isAbove _ ih =>
    cases short with
    | zero => exact .nil _
    | succ => exact .cons isAbove (ih (Nat.le_of_succ_le_succ shorter))

theorem Chain.length_le {measure : Item → Nat}
    (grows : ∀ higher item, above higher item → measure higher < measure item)
    (isChain : Chain above item length) : length ≤ measure item := by
  induction isChain with
  | nil => exact Nat.zero_le _
  | cons isAbove _ ih => exact Nat.succ_le_of_lt (ih.trans_lt (grows _ _ isAbove))

theorem layer_iff {layer : Nat} : Layer above item layer ↔
      Chain above item layer ∧ ¬ Chain above item (layer + 1) := by
  constructor
  · intro isLayer
    exact ⟨isLayer.1, fun longer => absurd (isLayer.2 longer) (Nat.not_succ_le_self _)⟩
  · rintro ⟨isChain, noLonger⟩
    refine ⟨isChain, fun length isOther => ?_⟩
    by_contra isLonger
    exact noLonger (isOther.mono (Nat.succ_le_of_lt (not_le.mp isLonger)))

theorem layer_congr {first second : Item}
    (same : ∀ higher, above higher first ↔ above higher second) (layer : Nat) :
    Layer above first layer ↔ Layer above second layer := by
  have sameChains (length : Nat) : Chain above first length ↔ Chain above second length := by
    cases length with
    | zero => exact iff_of_true (chain_zero first) (chain_zero second)
    | succ => simp only [chain_succ, same]
  rw [layer_iff, layer_iff, sameChains, sameChains]

theorem Layer.unique {first second : Nat} (isFirst : Layer above item first)
    (isSecond : Layer above item second) : first = second :=
  IsGreatest.unique isFirst isSecond

theorem Layer.lt_of_above {higher : Item} {earlier later : Nat}
    (ofHigher : Layer above higher earlier) (ofItem : Layer above item later)
    (isAbove : above higher item) : earlier < later :=
  Nat.lt_of_succ_le (ofItem.2 (Chain.cons isAbove ofHigher.1))

section

variable {measure : Item → Nat}
  (grows : ∀ higher item, above higher item → measure higher < measure item)

include grows

theorem exists_layer (item : Item) : ∃ layer, Layer above item layer := by
  classical
  refine ⟨Nat.findGreatest (Chain above item) (measure item), ?_, ?_⟩
  · exact Nat.findGreatest_spec (Nat.zero_le _) (chain_zero item)
  · intro length isChain
    exact Nat.le_findGreatest (isChain.length_le grows) isChain

theorem Layer.exists_above {item : Item} {layer : Nat} (isLayer : Layer above item (layer + 1)) :
    ∃ higher, above higher item ∧ Layer above higher layer := by
  obtain ⟨higher, isAbove, isChain⟩ := chain_succ.mp isLayer.1
  obtain ⟨other, ofHigher⟩ := exists_layer grows higher
  have earlier := ofHigher.lt_of_above isLayer isAbove
  obtain rfl : other = layer := le_antisymm (Nat.le_of_lt_succ earlier) (ofHigher.2 isChain)
  exact ⟨higher, isAbove, ofHigher⟩

theorem Layer.exists_of_le {item : Item} {earlier later : Nat} (isLayer : Layer above item later)
    (isEarlier : earlier ≤ later) :
    ∃ other, Layer above other earlier ∧ (other = item ∨ ∃ lower, above other lower) := by
  induction later generalizing item with
  | zero => exact ⟨item, Nat.le_zero.mp isEarlier ▸ isLayer, .inl rfl⟩
  | succ _ ih =>
    rcases Nat.lt_or_eq_of_le isEarlier with isBefore | rfl
    · obtain ⟨higher, isAbove, ofHigher⟩ := isLayer.exists_above grows
      obtain ⟨other, ofOther, rfl | isHigh⟩ := ih ofHigher (Nat.le_of_lt_succ isBefore)
      · exact ⟨other, ofOther, .inr ⟨item, isAbove⟩⟩
      · exact ⟨other, ofOther, .inr isHigh⟩
    · exact ⟨item, isLayer, .inl rfl⟩

end

end Layers
