import UrbanFlow.Experiments.Preparation

/-!
# Accepted experiments

What an experiment that is prepared without errors has passed: every alternative has
been resolved without an error, and the runs and the engine steps that were counted
are within the quotas.
-/

namespace UrbanFlow.Uncertainty

open Scenario PreparationContext

/-- What a request has passed that is prepared without errors. -/
structure AcceptedRequest {Law Analysis : Type} (context : PreparationContext Law Analysis)
    (request : ExperimentRequest Law) (base : ScenarioDocument)
    (prepared : Prepared Law) : Prop where
  resolved : request.specs.mapM (context.resolveAlternative base) = .ok prepared.alternatives
  noErrors : ∀ alternative ∈ prepared.alternatives, alternative.errors = []
  ids : (prepared.alternatives.map (·.spec.id)).Nodup
  several : 2 ≤ prepared.alternatives.length
  runs : (runCounts request.uncertainty prepared.alternatives.length).totalRuns ≤
    maxRunsPerExperiment
  steps : ∃ steps, context.simulationSteps prepared.alternatives
        (runCounts request.uncertainty prepared.alternatives.length) base =
      .ok steps ∧
    steps ≤ maxSimulationStepsPerExperiment

namespace PreparationContext

variable {Law Analysis : Type} {context : PreparationContext Law Analysis}
variable {request : ExperimentRequest Law} {base : ScenarioDocument} {prepared : Prepared Law}

theorem alternativeErrors_eq_nil {factors : List Factor} {resolved : List ResolvedAlternative}
    (noErrors : alternativeErrors factors resolved = []) :
    (resolved.map (·.spec.id)).Nodup ∧ 2 ≤ resolved.length ∧
      ∀ alternative ∈ resolved, alternative.errors = [] := by
  unfold alternativeErrors at noErrors
  simp only [List.append_eq_nil_iff, List.flatMap_eq_nil_iff, ite_eq_left_iff,
    ite_eq_right_iff, reduceCtorEq, imp_false, not_not, not_lt] at noErrors
  obtain ⟨⟨distinct, several⟩, each⟩ := noErrors
  exact ⟨distinct, several, fun alternative isMember => (each alternative isMember).1⟩

theorem quotaErrors_eq_nil {counts : RunCounts} {steps : Int} {duration : ℚ}
    (noErrors : context.quotaErrors counts steps duration = []) :
    counts.totalRuns ≤ maxRunsPerExperiment ∧ steps ≤ maxSimulationStepsPerExperiment := by
  obtain ⟨runs, steps⟩ := List.append_eq_nil_iff.mp noErrors
  constructor
  · by_contra tooMany
    rw [if_pos (not_le.mp tooMany)] at runs
    cases runs
  · by_contra tooMany
    rw [if_pos (not_le.mp tooMany)] at steps
    cases steps

section

variable (isPrepared : context.prepareAlternatives request base = .ok prepared)

include isPrepared

theorem acceptedRequest_of_prepareAlternatives
    (accepted : prepared.errors = []) : AcceptedRequest context request base prepared := by
  dsimp only [prepareAlternatives] at isPrepared
  split at isPrepared
  · cases isPrepared
    cases accepted
  · obtain ⟨resolved, isResolved, isPrepared⟩ := bind_ok_iff.mp isPrepared
    split at isPrepared
    · next few =>
        cases isPrepared
        obtain ⟨noErrors, -⟩ := List.append_eq_nil_iff.mp accepted
        have several := (alternativeErrors_eq_nil noErrors).2.1
        exact absurd several (by omega)
    · obtain ⟨steps, isSteps, isPrepared⟩ := bind_ok_iff.mp isPrepared
      cases isPrepared
      obtain ⟨noErrors, withinQuota⟩ := List.append_eq_nil_iff.mp accepted
      obtain ⟨noErrors, -⟩ := List.append_eq_nil_iff.mp noErrors
      obtain ⟨distinct, several, each⟩ := alternativeErrors_eq_nil noErrors
      obtain ⟨runs, bounded⟩ := quotaErrors_eq_nil withinQuota
      exact ⟨isResolved, each, distinct, several, runs, steps, isSteps, bounded⟩

theorem prepareAlternatives_ok : prepared.request = some request ∧ prepared.base = some base := by
  dsimp only [prepareAlternatives] at isPrepared
  split at isPrepared
  · cases isPrepared
    exact ⟨rfl, rfl⟩
  · obtain ⟨resolved, -, isPrepared⟩ := bind_ok_iff.mp isPrepared
    split at isPrepared
    · cases isPrepared
      exact ⟨rfl, rfl⟩
    · obtain ⟨steps, -, isPrepared⟩ := bind_ok_iff.mp isPrepared
      cases isPrepared
      exact ⟨rfl, rfl⟩

end

theorem acceptedRequest_of_prepare {payload : PyValue}
    (isPrepared : context.prepare payload = .ok prepared) (accepted : prepared.errors = [])
    (isRequest : prepared.request = some request) (isBase : prepared.base = some base) :
    AcceptedRequest context request base prepared := by
  unfold prepare at isPrepared
  split at isPrepared
  · split at isPrepared
    · cases isPrepared
      cases isRequest
    · split at isPrepared
      · cases isPrepared
        cases isRequest
      · split at isPrepared
        · cases isPrepared
          cases isBase
        · obtain ⟨sameRequest, sameBase⟩ := prepareAlternatives_ok isPrepared
          cases isRequest.symm.trans sameRequest
          cases isBase.symm.trans sameBase
          exact acceptedRequest_of_prepareAlternatives isPrepared accepted
  · cases isPrepared
    cases accepted

theorem checkScenario_ok {document : ScenarioDocument} {strategy : String}
    {report : ValidationReport} (isChecked : context.checkScenario document strategy = .ok report) :
    context.contract.validateScenario document (some [strategy]) = .ok report := by
  unfold checkScenario at isChecked
  split at isChecked
  · obtain ⟨config, -, isChecked⟩ := bind_ok_iff.mp isChecked
    split at isChecked
    · cases isChecked
    · exact isChecked
  · exact isChecked

section

variable {spec : AlternativeSpec} {resolved : ResolvedAlternative}
  (isResolved : context.resolveAlternative base spec = .ok resolved)

include isResolved

theorem resolveAlternative_ok : resolved.spec = spec ∧ resolved.document =
        if context.specErrors spec = [] then (context.alternativeDocument base spec.patch).toOption
        else none := by
  dsimp only [resolveAlternative] at isResolved
  split at isResolved
  · next wrong =>
      cases isResolved
      exact ⟨rfl, (if_neg wrong).symm⟩
  · next right =>
      rw [if_pos (not_not.mp right)]
      split at isResolved
      · next refused =>
          cases isResolved
          exact ⟨rfl, by rw [refused]; rfl⟩
      · next parsed =>
          obtain ⟨check, -, isResolved⟩ := bind_ok_iff.mp isResolved
          cases isResolved
          exact ⟨rfl, by rw [parsed]; rfl⟩

theorem specErrors_eq_nil (noErrors : resolved.errors = []) : context.specErrors spec = [] := by
  by_contra wrong
  unfold resolveAlternative at isResolved
  rw [if_pos wrong] at isResolved
  cases isResolved
  exact wrong noErrors

theorem compiled_of_resolveAlternative (noErrors : resolved.errors = [])
    {document : ScenarioDocument} (isDocument : resolved.document = some document) :
    ∃ config, document.compileScenario context.contract.fingerprint spec.strategy = .ok config ∧
        context.contract.schemaErrors config = [] ∧
        context.contract.semanticConfigErrors config = [] := by
  have right := specErrors_eq_nil isResolved noErrors
  unfold resolveAlternative at isResolved
  rw [if_neg (not_not.mpr right)] at isResolved
  split at isResolved
  · cases isResolved
    cases isDocument
  · obtain ⟨check, isChecked, isResolved⟩ := bind_ok_iff.mp isResolved
    cases isResolved
    cases isDocument
    have validated := checkScenario_ok isChecked
    have valid : check.valid = true := by
      by_contra invalid
      rw [if_neg invalid, List.map_eq_nil_iff] at noErrors
      exact invalid (context.contract.valid_of_noErrors validated noErrors)
    apply context.contract.compiled_of_valid validated valid
    rw [context.contract.strategies_of_ok validated]
    exact List.mem_singleton_self _

end

end PreparationContext

namespace AcceptedRequest

variable {Law Analysis : Type} {context : PreparationContext Law Analysis}
variable {request : ExperimentRequest Law} {base : ScenarioDocument} {prepared : Prepared Law}

section

variable (accepted : AcceptedRequest context request base prepared)

include accepted

theorem alternativeDocument_eq {alternative : RunAlternative}
    (isRun : alternative ∈ prepared.runAlternatives) : ∃ spec ∈ request.specs,
      context.alternativeDocument base spec.patch = .ok alternative.document := by
  obtain ⟨resolved, isResolved, isAlternative⟩ := List.mem_filterMap.mp isRun
  obtain ⟨document, isDocument, rfl⟩ := Option.map_eq_some_iff.mp isAlternative
  obtain ⟨spec, isSpec, isMade⟩ := exists_of_mem_mapM accepted.resolved isResolved
  obtain ⟨-, sameDocument⟩ := resolveAlternative_ok isMade
  have right := specErrors_eq_nil isMade (accepted.noErrors resolved isResolved)
  refine ⟨spec, isSpec, ?_⟩
  rw [isDocument, if_pos right] at sameDocument
  cases isParsed : context.alternativeDocument base spec.patch with
  | error => simp [isParsed, Except.toOption] at sameDocument
  | ok =>
    rw [isParsed] at sameDocument
    rw [Option.some.inj sameDocument]

theorem exists_runAlternative {spec : AlternativeSpec} (isSpec : spec ∈ request.specs)
    {document : ScenarioDocument}
    (isDocument : context.alternativeDocument base spec.patch = .ok document) :
    ∃ alternative ∈ prepared.runAlternatives, alternative.document = document := by
  obtain ⟨resolved, isResolved, isMade⟩ := exists_result_of_mem accepted.resolved isSpec
  obtain ⟨-, sameDocument⟩ := resolveAlternative_ok isMade
  have right := specErrors_eq_nil isMade (accepted.noErrors resolved isResolved)
  rw [isDocument, if_pos right] at sameDocument
  refine ⟨⟨resolved.spec.id, resolved.spec.strategy, document⟩, ?_, rfl⟩
  exact List.mem_filterMap.mpr ⟨resolved, isResolved, by rw [sameDocument]; rfl⟩

theorem compiled {alternative : RunAlternative} (isRun : alternative ∈ prepared.runAlternatives) :
    ∃ config, alternative.document.compileScenario context.contract.fingerprint
          alternative.strategy = .ok config ∧ context.contract.schemaErrors config = [] ∧
        context.contract.semanticConfigErrors config = [] := by
  obtain ⟨resolved, isResolved, isAlternative⟩ := List.mem_filterMap.mp isRun
  obtain ⟨document, isDocument, rfl⟩ := Option.map_eq_some_iff.mp isAlternative
  obtain ⟨spec, -, isMade⟩ := exists_of_mem_mapM accepted.resolved isResolved
  rw [(resolveAlternative_ok isMade).1]
  exact compiled_of_resolveAlternative isMade
    (accepted.noErrors resolved isResolved) isDocument

end

end AcceptedRequest
end UrbanFlow.Uncertainty
