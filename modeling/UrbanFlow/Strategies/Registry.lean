import UrbanFlow.Metering.PyValue

/-!
# The strategy registry

The four built-in strategies and the names that lead to them.
-/

namespace UrbanFlow

/-- The built-in strategies. -/
inductive StrategyId
  | fixedTimeSignal
  | adaptiveSignal
  | conventionalRoundabout
  | meteredEntryRoundabout
  deriving DecidableEq, Repr

namespace StrategyId

/-- The id of the descriptor. -/
def value : StrategyId → String
  | fixedTimeSignal => "fixed_time_signal"
  | adaptiveSignal => "adaptive_signal"
  | conventionalRoundabout => "conventional_roundabout"
  | meteredEntryRoundabout => "metered_entry_roundabout"

/-- The registered strategies, in the order they are registered. -/
def all : List StrategyId :=
  [fixedTimeSignal, adaptiveSignal, conventionalRoundabout, meteredEntryRoundabout]

def IsRoundabout (strategy : StrategyId) : Prop :=
  strategy = conventionalRoundabout ∨ strategy = meteredEntryRoundabout

instance : DecidablePred IsRoundabout := fun strategy => inferInstanceAs (Decidable
    (strategy = conventionalRoundabout ∨ strategy = meteredEntryRoundabout))

end StrategyId

namespace StrategyRegistry

def legacyStrategyAliases : List (String × String) :=
  [("fixed_time", "fixed_time_signal"), ("adaptive", "adaptive_signal"),
    ("roundabout", "conventional_roundabout"),
    ("signalised_roundabout", "metered_entry_roundabout")]

/-- `sorted(list(self._strategies.keys()) + list(self._aliases.keys()))`. -/
def registeredOptions : List String :=
  (StrategyId.all.map StrategyId.value ++ legacyStrategyAliases.map Prod.fst).insertionSort (· ≤ ·)

/-- `resolve_id`. An alias leads straight to a strategy, so its loop follows at
most one. -/
def resolveId (aliasOrId : String) : Except PyMessage StrategyId :=
  let current := (legacyStrategyAliases.lookup aliasOrId).getD aliasOrId
  match StrategyId.all.find? fun strategy => strategy.value = current with
  | some strategy => .ok strategy
  | none =>
    .error [.text "Unknown strategy ", .repr (.str aliasOrId), .text ". Registered options: ",
        .str (.list (registeredOptions.map .str)), .text "."]

def has (aliasOrId : String) : Bool := (resolveId aliasOrId).isOk

theorem name_of_resolveId {name : String} {strategy : StrategyId}
    (resolved : resolveId name = .ok strategy) :
    name = strategy.value ∨ (name, strategy.value) ∈ legacyStrategyAliases := by
  simp only [resolveId] at resolved
  split at resolved
  case h_2 => cases resolved
  case h_1 found isFound =>
    obtain rfl : found = strategy := by simpa using resolved
    have current : found.value = (legacyStrategyAliases.lookup name).getD name := by
      simpa using List.find?_some isFound
    cases target : legacyStrategyAliases.lookup name with
    | none =>
      rw [target] at current
      exact Or.inl current.symm
    | some other =>
      rw [target] at current
      obtain rfl : found.value = other := current
      obtain ⟨_, _, split, _⟩ := List.lookup_eq_some_iff.mp target
      exact Or.inr (split ▸ by simp)

end StrategyRegistry
end UrbanFlow
