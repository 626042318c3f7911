import UrbanFlow.Priority.TransitShowings

/-!
# The accounts of transit priority

What one tick does to each account, and what an extension or an early green has checked
when its total changes.
-/

namespace UrbanFlow

open CarrySchedule CyclicOrder PriorityController TransitLedger

variable {plan : Plan}

namespace PriorityController

/-- A tick that goes on with a showing keeps its key. -/
theorem key_of_continues {before after : PriorityController plan}
    (continues : Continues before.base after.base) : after.key = before.key :=
  Prod.ext continues.1 continues.2.1

namespace TransitTick

variable {settings : PrioritySettings} {now : ℚ} {before after : PriorityController plan}

section

variable (tick : TransitTick settings now before after)

include tick

/-- The accounts are about the phase before the tick, or about an earlier one. -/
theorem tspKey_cases : after.tspKey = before.tspKey ∨ after.tspKey = some before.key := by
  cases tick with
  | quiet ledger =>
    obtain ledger | ledger := ledger
    · exact .inl (congrArg TransitLedger.key ledger)
    · exact .inr (congrArg TransitLedger.key ledger)
  | extended _ _ _ _ _ ledger | cuts _ _ _ _ _ _ _ _ _ _ ledger =>
    exact .inr (congrArg TransitLedger.key ledger)

/-- The phase that was cut last is the one before the tick, or an earlier one. -/
theorem tspCutKey_cases :
    after.tspCutKey = before.tspCutKey ∨ after.tspCutKey = some before.key := by
  cases tick with
  | quiet ledger =>
    obtain ledger | ledger := ledger
    · exact .inl (congrArg cutKey ledger)
    · exact .inl (congrArg cutKey ledger)
  | extended _ _ _ _ _ ledger =>
    exact .inl (congrArg cutKey ledger)
  | cuts _ _ _ _ _ _ _ _ _ _ ledger =>
      exact .inr (congrArg cutKey ledger)

theorem tspLastAction_cases :
    after.tspLastAction = before.tspLastAction ∨ after.tspLastAction = now := by
  cases tick with
  | quiet ledger =>
    obtain ledger | ledger := ledger
    · exact .inl (congrArg lastAction ledger)
    · exact .inl (congrArg lastAction ledger)
  | extended _ _ _ _ _ ledger | cuts _ _ _ _ _ _ _ _ _ _ ledger =>
    exact .inr (congrArg lastAction ledger)

end

section

variable (tick : TransitTick settings now before after)

include tick

/-- The extension accounted for is not negative. -/
theorem tspExtended_nonneg (positive : 0 < settings.dt) (nonneg : 0 ≤ before.tspExtended) :
    0 ≤ after.tspExtended := by
  have extension : 0 ≤ before.extension := by
    unfold PriorityController.extension
    split
    · exact nonneg
    · exact le_rfl
  cases tick with
  | quiet ledger =>
    obtain ledger | ledger := ledger
    · exact nonneg.trans_eq (congrArg TransitLedger.extended ledger).symm
    · exact extension.trans_eq (congrArg TransitLedger.extended ledger).symm
  | extended _ _ _ _ _ ledger =>
    have isExtended : after.tspExtended = before.extension + settings.dt :=
      congrArg TransitLedger.extended ledger
    rw [isExtended]
    linarith
  | cuts _ _ _ _ _ _ _ _ _ _ ledger =>
      exact extension.trans_eq (congrArg TransitLedger.extended ledger).symm

/-- While a showing goes on, its extension grows with the total. -/
theorem extension_total
    (sameKey : after.key = before.key) :
    after.extension - before.extension = after.tspExtensionTotal - before.tspExtensionTotal := by
  have looked : after.tspKey = some before.key → after.extension = after.tspExtended := by
    intro isKey
    unfold PriorityController.extension
    rw [isKey, sameKey, if_pos rfl]
  cases tick with
  | quiet ledger =>
    have sameTotal : after.tspExtensionTotal = before.tspExtensionTotal := by
      obtain ledger | ledger := ledger
      · exact congrArg extensionTotal ledger
      · exact congrArg extensionTotal ledger
    rw [sameTotal, sub_self, sub_eq_zero]
    obtain ledger | ledger := ledger
    · have isKey : after.tspKey = before.tspKey := congrArg TransitLedger.key ledger
      have isExtended : after.tspExtended = before.tspExtended :=
        congrArg TransitLedger.extended ledger
      unfold PriorityController.extension
      rw [isKey, isExtended, sameKey]
    · rw [looked (congrArg TransitLedger.key ledger)]
      exact congrArg TransitLedger.extended ledger
  | extended _ _ _ _ _ ledger =>
    have isExtended : after.tspExtended = before.extension + settings.dt :=
      congrArg TransitLedger.extended ledger
    have isTotal : after.tspExtensionTotal = before.tspExtensionTotal + settings.dt :=
      congrArg extensionTotal ledger
    rw [looked (congrArg TransitLedger.key ledger), isExtended, isTotal]
    ring
  | cuts _ _ _ _ _ _ _ _ _ _ ledger =>
      have isExtended : after.tspExtended = before.extension :=
        congrArg TransitLedger.extended ledger
      have sameTotal : after.tspExtensionTotal = before.tspExtensionTotal :=
        congrArg extensionTotal ledger
      rw [looked (congrArg TransitLedger.key ledger), isExtended, sameTotal]
      ring

theorem of_extends {config : TransitPriorityConfig} (configured : settings.transit = some config)
    (isExtended : after.tspExtensionTotal ≠ before.tspExtensionTotal) :
    after.base = before.base ∧ after.tspExtensionTotal = before.tspExtensionTotal + settings.dt ∧
      before.extension < config.maxExtensionS ∧
      (0 < before.extension ∨ config.minSpacingS ≤ now - before.tspLastAction) ∧
      after.tspLastAction = now := by
  cases tick with
  | quiet ledger =>
    obtain ledger | ledger := ledger
    · exact absurd (congrArg extensionTotal ledger) isExtended
    · exact absurd (congrArg extensionTotal ledger) isExtended
  | extended _ isConfigured _ inBudget spaced ledger same =>
    cases configured.symm.trans isConfigured
    exact ⟨same, congrArg extensionTotal ledger, inBudget, spaced,
      congrArg lastAction ledger⟩
  | cuts _ _ _ _ _ _ _ _ _ _ ledger =>
      exact absurd (congrArg extensionTotal ledger) isExtended

end

/-- What an early green has checked and does, `cut` seconds long. -/
structure Cut (config : TransitPriorityConfig) (dt now cut : ℚ)
    (before after : PriorityController plan) : Prop where
  isGreen : plan.isGreen before.index = true
  isLong : 2 ≤ plan.phases.length
  uncut : before.tspCutKey ≠ some before.key
  keyed : after.tspCutKey = some before.key
  spaced : config.minSpacingS ≤ now - before.tspLastAction
  acted : after.tspLastAction = now
  inBudget : cut ≤ config.maxEarlyGreenS
  keeps : cut ≤ plan.duration before.index - config.minGreenS
  same : after.base = PhaseDriver.advance dt plan.next (PhaseDriver.skipAhead cut before.base)

theorem of_cuts {config : TransitPriorityConfig} (configured : settings.transit = some config)
    (tick : TransitTick settings now before after)
    (isCut : after.tspEarlyGreenTotal ≠ before.tspEarlyGreenTotal) :
    Cut config settings.dt now (after.tspEarlyGreenTotal - before.tspEarlyGreenTotal)
      before after := by
  cases tick with
  | quiet ledger =>
    obtain ledger | ledger := ledger
    · exact absurd (congrArg earlyGreenTotal ledger) isCut
    · exact absurd (congrArg earlyGreenTotal ledger) isCut
  | extended _ _ _ _ _ ledger =>
    exact absurd (congrArg earlyGreenTotal ledger) isCut
  | cuts _ cut isConfigured isGreen isLong uncut spaced inBudget isEnough keeps ledger same =>
      cases configured.symm.trans isConfigured
      have isTotal : after.tspEarlyGreenTotal = before.tspEarlyGreenTotal + cut :=
        congrArg earlyGreenTotal ledger
      rw [isTotal, add_sub_cancel_left]
      refine ⟨isGreen, isLong, uncut, congrArg cutKey ledger, spaced,
        congrArg lastAction ledger, inBudget, ?_, same⟩
      have isKept : config.minGreenS - before.base.timeInCurrentState ≤
          max 0 (config.minGreenS - before.base.timeInCurrentState) := le_max_right _ _
      change cut ≤ plan.duration before.base.currentPhaseIdx - config.minGreenS
      linarith [cut_fits isEnough keeps]

/-- A tick in which transit priority does nothing is the plan's or the pre-emption's. -/
theorem plainMove (positive : 0 < settings.dt) (tick : TransitTick settings now before after)
    (notExtended : after.tspExtensionTotal = before.tspExtensionTotal)
    (notCut : after.tspEarlyGreenTotal = before.tspEarlyGreenTotal) :
    PlainMove settings.dt before after := by
  cases tick with
  | quiet _ move => exact move
  | extended _ _ _ _ _ ledger =>
    have isTotal : after.tspExtensionTotal = before.tspExtensionTotal + settings.dt :=
      congrArg extensionTotal ledger
    linarith
  | cuts _ cut _ _ _ _ _ _ _ _ ledger =>
      have isTotal : after.tspEarlyGreenTotal = before.tspEarlyGreenTotal + cut :=
        congrArg earlyGreenTotal ledger
      linarith

end TransitTick
end PriorityController
end UrbanFlow
