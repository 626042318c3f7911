import UrbanFlow.Uncertainty.Ensemble

/-!
# Ensembles from a checkpoint

A run of an ensemble is known by its key, and its task by the run. A checkpoint
is sound when what it holds under a key is read like the result of every run of
that key. An ensemble that is not cancelled gives the analysis the same
conditions from every sound checkpoint, and leaves a sound checkpoint.
-/

namespace UrbanFlow.Uncertainty

open Scenario

theorem append_separator_inj {separator : Char} {first second : List Char}
    (notFirst : separator ∉ first) (notSecond : separator ∉ second) {rest others : List Char}
    (equal : first ++ separator :: rest = second ++ separator :: others) :
    first = second ∧ rest = others := by
  induction first generalizing second with
  | nil =>
    cases second with
    | nil => exact ⟨rfl, (List.cons.inj equal).2⟩
    | cons =>
      have isSeparator := (List.cons.inj equal).1
      exact absurd (isSeparator ▸ List.mem_cons_self) notSecond
  | cons _ _ ih =>
    cases second with
    | nil =>
      have isSeparator := (List.cons.inj equal).1
      exact absurd (isSeparator ▸ List.mem_cons_self) notFirst
    | cons =>
      obtain ⟨rfl, tails⟩ := List.cons.inj equal
      obtain ⟨rfl, sameRest⟩ := ih (fun isIn => notFirst (List.mem_cons_of_mem _ isIn))
        (fun isIn => notSecond (List.mem_cons_of_mem _ isIn)) tails
      exact ⟨rfl, sameRest⟩

theorem colon_notMem_toDigits (number : Nat) : ':' ∉ Nat.toDigits 10 number := by
  intro isIn
  have isDigit := Nat.isDigit_of_mem_toDigits (by omega) (by omega) isIn
  revert isDigit
  decide

theorem toDigits_injective {first second : Nat}
    (equal : Nat.toDigits 10 first = Nat.toDigits 10 second) : first = second := by
  rw [← Nat.ofDigitChars_ten_toDigits (n := first), equal, Nat.ofDigitChars_ten_toDigits]

theorem toList_runKey (condition replication : Nat) (alternative : String) :
    (runKey condition replication alternative).toList = Nat.toDigits 10 condition ++ ':' ::
        (Nat.toDigits 10 replication ++ ':' :: alternative.toList) := by
  simp [runKey, Nat.toString_eq_repr, Nat.toList_repr]

theorem runKey_injective {condition condition' replication replication' : Nat}
    {alternative alternative' : String} (equal : runKey condition replication alternative =
      runKey condition' replication' alternative') :
    condition = condition' ∧ replication = replication' ∧ alternative = alternative' := by
  have lists := congrArg String.toList equal
  rw [toList_runKey, toList_runKey] at lists
  obtain ⟨sameCondition, lists⟩ := append_separator_inj
    (colon_notMem_toDigits _) (colon_notMem_toDigits _) lists
  obtain ⟨sameReplication, lists⟩ := append_separator_inj
    (colon_notMem_toDigits _) (colon_notMem_toDigits _) lists
  exact ⟨toDigits_injective sameCondition, toDigits_injective sameReplication,
    String.toList_injective lists⟩

theorem idAt_injective {alternatives : List RunAlternative}
    (nodup : (alternatives.map RunAlternative.id).Nodup) {pos pos' : Nat}
    (inside : pos < alternatives.length) (inside' : pos' < alternatives.length)
    (equal : idAt alternatives pos = idAt alternatives pos') : pos = pos' := by
  refine (List.getElem?_inj (by simpa using inside) nodup).mp ?_
  unfold idAt at equal
  rw [List.getElem?_map, List.getElem?_map]
  rw [List.getElem?_eq_getElem inside, List.getElem?_eq_getElem inside'] at equal ⊢
  simpa using equal

namespace EnsembleContext

variable {Law Analysis : Type} {context : EnsembleContext Law Analysis}
variable {spec : UncertaintySpec Law} {alternatives : List RunAlternative}

theorem mem_sampleConditions {condition : Condition}
    (isSampled : condition ∈ context.sampleConditions spec) {other : Condition}
    (otherSampled : other ∈ context.sampleConditions spec)
    (sameIndex : condition.index = other.index) : condition = other := by
  obtain ⟨i, _, rfl⟩ := List.mem_map.mp isSampled
  obtain ⟨j, _, rfl⟩ := List.mem_map.mp otherSampled
  obtain rfl : i = j := sameIndex
  rfl

theorem mem_planned {condition : Condition} {run : PlannedRun}
    (isPlanned : run ∈ context.planned spec alternatives condition) :
    ∃ alternative perturbed seed, alternatives[run.pos]? = some alternative ∧
      applyFactors context.contract.fingerprint context.modelErrors
        alternative.document (spec.factors.map Prod.fst) condition.valueOf = .ok perturbed ∧
      condition.seeds[run.rep]? = some seed ∧
      context.simTask condition alternative perturbed run.rep seed = .ok run.task := by
  unfold planned at isPlanned
  split at isPlanned
  · cases isPlanned
  · next runs isBuilt =>
      rw [List.mem_insertionSort] at isPlanned
      unfold conditionRuns at isBuilt
      obtain ⟨lists, isLists, isRuns⟩ := bind_ok_iff.mp isBuilt
      cases isRuns
      obtain ⟨list, isList, isRun⟩ := List.mem_flatten.mp isPlanned
      obtain ⟨⟨alternative, pos⟩, isAt, ofAlternative⟩ := exists_of_mem_mapM isLists isList
      unfold alternativeRuns at ofAlternative
      obtain ⟨perturbed, isPerturbed, ofAlternative⟩ := bind_ok_iff.mp ofAlternative
      obtain ⟨check, _, ofAlternative⟩ := bind_ok_iff.mp ofAlternative
      split at ofAlternative
      · obtain ⟨⟨seed, rep⟩, isSeed, ofSeed⟩ := exists_of_mem_mapM ofAlternative isRun
        obtain ⟨task, isTask, isMade⟩ := bind_ok_iff.mp ofSeed
        cases isMade
        exact ⟨alternative, perturbed, seed, List.mem_zipIdx_iff_getElem?.mp isAt, isPerturbed,
          List.mem_zipIdx_iff_getElem?.mp isSeed, isTask⟩
      · cases ofAlternative

theorem mem_entries {entry : PlannedEntry} (isEntry : entry ∈ context.entries spec alternatives) :
    ∃ condition ∈ context.sampleConditions spec, condition.index = entry.index ∧
        entry.toPlannedRun ∈ context.planned spec alternatives condition := by
  obtain ⟨condition, isSampled, isRun⟩ := List.mem_flatMap.mp isEntry
  obtain ⟨run, isPlanned, rfl⟩ := List.mem_map.mp isRun
  exact ⟨condition, isSampled, rfl, isPlanned⟩

theorem task_eq_of_key (nodup : (alternatives.map RunAlternative.id).Nodup)
    {entry other : PlannedEntry} (isEntry : entry ∈ context.entries spec alternatives)
    (isOther : other ∈ context.entries spec alternatives)
    (sameKey : entry.key alternatives = other.key alternatives) : entry.task = other.task := by
  obtain ⟨condition, isSampled, isIndex, isPlanned⟩ := mem_entries isEntry
  obtain ⟨condition', otherSampled, otherIndex, otherPlanned⟩ := mem_entries isOther
  obtain ⟨_, _, _, isAt, isPerturbed, isSeed, isTask⟩ := mem_planned isPlanned
  obtain ⟨alternative', perturbed', seed', otherAt, otherPerturbed, otherSeed,
    otherTask⟩ := mem_planned otherPlanned
  obtain ⟨sameIndex, sameRep, sameId⟩ := runKey_injective sameKey
  obtain rfl := mem_sampleConditions isSampled otherSampled
    (isIndex.trans (sameIndex.trans otherIndex.symm))
  have samePos : entry.pos = other.pos := idAt_injective nodup (List.getElem?_eq_some_iff.mp isAt).1
      (List.getElem?_eq_some_iff.mp otherAt).1 sameId
  rw [samePos] at isAt
  cases isAt.symm.trans otherAt
  cases isPerturbed.symm.trans otherPerturbed
  rw [sameRep] at isSeed isTask
  cases isSeed.symm.trans otherSeed
  exact Except.ok.inj (isTask.symm.trans otherTask)

end EnsembleContext

section

variable (simulate : SimTask → Option RunReport)

/-- The outcome of a task that is run: the simulation is a function of the task,
and returns no report when it raises. -/
def finished (task : SimTask) : TaskOutcome := match simulate task with
  | some report => .report report
  | none => .raised

/-- A pool that runs some of the tasks before it is cancelled. -/
def pool (reached : Nat → Bool) (tasks : List SimTask) : List TaskOutcome :=
  tasks.zipIdx.map fun (task, i) => if reached i then finished simulate task else .cancelled

end

section Pool

variable {simulate : SimTask → Option RunReport} {reached : Nat → Bool} {tasks : List SimTask}

@[simp] theorem length_pool : (pool simulate reached tasks).length = tasks.length := by simp [pool]

theorem pool_eq_map (noneCancelled : TaskOutcome.cancelled ∉ pool simulate reached tasks) :
    pool simulate reached tasks = tasks.map (finished simulate) := by
  have everyTask : ∀ entry ∈ tasks.zipIdx,
      (if reached entry.2 then finished simulate entry.1 else .cancelled) =
        finished simulate entry.1 := by
    intro entry isEntry
    by_cases isReached : reached entry.2 = true
    · simp [isReached]
    · refine absurd (List.mem_map.mpr ⟨entry, isEntry, ?_⟩) noneCancelled
      simp [isReached]
  calc pool simulate reached tasks
      = tasks.zipIdx.map fun entry => finished simulate entry.1 := List.map_congr_left everyTask
    _ = (tasks.zipIdx.map Prod.fst).map (finished simulate) := by
        rw [List.map_map]
        rfl
    _ = tasks.map (finished simulate) := by rw [List.zipIdx_map_fst]

theorem pool_everything : pool simulate (fun _ => true) tasks = tasks.map (finished simulate) := by
  refine pool_eq_map ?_
  intro isCancelled
  obtain ⟨entry, _, isOutcome⟩ := List.mem_map.mp isCancelled
  simp only [if_true, finished] at isOutcome
  split at isOutcome
  · cases isOutcome
  · cases isOutcome

theorem report_of_mem_zip {Entry : Type} {taskOf : Entry → SimTask} {todo : List Entry}
    {entry : Entry} {report : RunReport} (isOutcome : (entry, TaskOutcome.report report) ∈
      todo.zip (pool simulate reached (todo.map taskOf))) :
    entry ∈ todo ∧ simulate (taskOf entry) = some report := by
  obtain ⟨_, _, isEntry⟩ := List.mem_iff_getElem.mp isOutcome
  simp only [List.getElem_zip, pool, List.getElem_map, List.getElem_zipIdx,
    Prod.mk.injEq] at isEntry
  obtain ⟨rfl, isReport⟩ := isEntry
  refine ⟨List.getElem_mem _, ?_⟩
  split at isReport
  · unfold finished at isReport
    split at isReport
    · next found =>
        cases isReport
        exact found
    · cases isReport
  · cases isReport

end Pool

def TaskOutcome.reading : TaskOutcome → TaskOutcome
  | .report result => .report result.kept
  | .raised => .raised
  | .cancelled => .cancelled

section

variable (name : String) (alternatives : List RunAlternative)

theorem gather_reading (gathered : Gathered) (result : PlannedEntry × TaskOutcome) :
    gathered.gather name alternatives (result.1, result.2.reading) =
      gathered.gather name alternatives result := by
  obtain ⟨entry, outcome⟩ := result
  cases outcome with
  | report report | raised | cancelled => rfl

theorem foldl_gather_reading (results : List (PlannedEntry × TaskOutcome)) (gathered : Gathered) :
    (results.map fun result => (result.1, result.2.reading)).foldl
        (Gathered.gather name alternatives) gathered =
      results.foldl (Gathered.gather name alternatives) gathered := by
  rw [List.foldl_map]
  congr 1
  funext gathered result
  exact gather_reading name alternatives gathered result

end

/-- What a checkpoint may hold under a key: metrics that are read like the result
of every run of the key. -/
def Right (simulate : SimTask → Option RunReport) (alternatives : List RunAlternative)
    (entries : List PlannedEntry) (key : String) (kept : RunReport) : Prop :=
  ∀ entry ∈ entries, entry.key alternatives = key →
    ∃ report, simulate entry.task = some report ∧ kept.read = report.read

section Sound

variable {simulate : SimTask → Option RunReport} {alternatives : List RunAlternative}
variable {done : Checkpoint}

theorem collect_of_kept {entry : PlannedEntry} {kept : RunReport}
    (isKept : done (entry.key alternatives) = some kept) (rest : List PlannedEntry)
    (fresh : List TaskOutcome) : collect alternatives done (entry :: rest) fresh =
      (entry, .report kept) :: collect alternatives done rest fresh := by
  rw [collect]
  simp only [isKept]

theorem collect_reading {all entries : List PlannedEntry}
    (sound : Memo.Sound (Right simulate alternatives all) done) (subset : entries ⊆ all) :
    (collect alternatives done entries ((entries.filter fun entry =>
          (done (entry.key alternatives)).isNone).map
            fun entry => finished simulate entry.task)).map
        (fun result => (result.1, result.2.reading)) = entries.map fun entry =>
        (entry, (finished simulate entry.task).reading) := by
  induction entries with
  | nil => rfl
  | cons entry _ ih =>
    have restAgrees := ih (List.Subset.trans (List.subset_cons_self _ _) subset)
    cases isKept : done (entry.key alternatives) with
    | none =>
      simp only [List.filter_cons, isKept, Option.isNone_none, if_true,
        List.map_cons, collect, restAgrees]
    | some kept =>
      obtain ⟨report, isReport, sameReading⟩ := sound _ kept isKept entry
        (subset List.mem_cons_self) rfl
      have sameKept : kept.kept = report.kept := by simp only [RunReport.kept, sameReading]
      have isFinished : finished simulate entry.task = .report report := by
        simp only [finished, isReport]
      simp only [List.filter_cons, isKept, Option.isNone_some, Bool.false_eq_true, if_false]
      rw [collect_of_kept isKept, List.map_cons, restAgrees, List.map_cons,
        isFinished, TaskOutcome.reading, TaskOutcome.reading, sameKept]

end Sound

theorem notMem_of_incompleteConditions_nil {todo : List PlannedEntry} {fresh : List TaskOutcome}
    (sameLength : fresh.length = todo.length)
    (noneIncomplete : incompleteConditions (todo.zip fresh) = []) :
    TaskOutcome.cancelled ∉ fresh := by
  intro isCancelled
  have isSecond : (todo.zip fresh).map Prod.snd = fresh := List.map_snd_zip sameLength.le
  rw [← isSecond] at isCancelled
  obtain ⟨⟨entry, outcome⟩, isResult, rfl⟩ := List.mem_map.mp isCancelled
  have isIncomplete : entry.index ∈ incompleteConditions (todo.zip fresh) :=
    List.mem_filterMap.mpr ⟨_, isResult, rfl⟩
  rw [noneIncomplete] at isIncomplete
  cases isIncomplete

namespace EnsembleContext

variable {Law Analysis : Type} (context : EnsembleContext Law Analysis)
variable (spec : UncertaintySpec Law) (alternatives : List RunAlternative)
variable (simulate : SimTask → Option RunReport)

/-- What the checkpoint may hold under a key. -/
abbrev Reproduces : String → RunReport → Prop :=
  Right simulate alternatives (context.entries spec alternatives)

/-- What the analysis is given when every run has been done. -/
def everyCondition : List ConditionResult :=
  (context.sampleConditions spec).map (context.conditionResult spec alternatives []
      (((context.entries spec alternatives).map fun entry =>
          (entry, finished simulate entry.task)).foldl
        (Gathered.gather spec.primaryIndicator.value alternatives) {}))

def pooledRun (reached : Nat → Bool) (done : Checkpoint) : EnsembleRun :=
  context.ensembleRun spec alternatives done (pool simulate reached
      ((context.todo spec alternatives done).map fun entry => entry.task))

variable {context spec alternatives simulate} {reached : Nat → Bool} {done : Checkpoint}

theorem runEnsemble_pool : context.runEnsemble spec alternatives (pool simulate reached) done =
      if checkAlternatives alternatives ≠ [] then .error (.refused (checkAlternatives alternatives))
      else if preflightProblems spec alternatives ≠ [] then
        .error (.refused (preflightProblems spec alternatives))
      else .ok (context.pooledRun spec alternatives simulate reached done) := by
  have isFresh : (if context.todo spec alternatives done = [] then [] else pool simulate reached
        ((context.todo spec alternatives done).map fun entry => entry.task)) =
      pool simulate reached
        ((context.todo spec alternatives done).map fun entry => entry.task) := by
    split
    · next nothingLeft =>
        rw [nothingLeft]
        rfl
    · rfl
  unfold runEnsemble pooledRun
  simp only [isFresh, length_pool, List.length_map, ne_eq, not_true_eq_false, if_false]

theorem noneCancelled_of_pooledRun
    (completed : (context.pooledRun spec alternatives simulate reached done).cancelled = false) :
    incompleteConditions ((context.todo spec alternatives done).zip (pool simulate reached
          ((context.todo spec alternatives done).map fun entry => entry.task))) = [] := by
  simpa [pooledRun, ensembleRun] using completed

theorem cancelled_pooledRun_everything :
    (context.pooledRun spec alternatives simulate (fun _ => true) done).cancelled = false := by
  have noneIncomplete : incompleteConditions ((context.todo spec alternatives done).zip
        (pool simulate (fun _ => true) ((context.todo spec alternatives done).map fun entry =>
            entry.task))) = [] := by
    rw [pool_everything]
    refine List.filterMap_eq_nil_iff.mpr ?_
    rintro ⟨entry, outcome⟩ isResult
    have isOutcome := (List.of_mem_zip isResult).2
    obtain ⟨task, _, rfl⟩ := List.mem_map.mp isOutcome
    unfold finished
    cases simulate task with
    | some report | none => rfl
  simp [pooledRun, ensembleRun, noneIncomplete]

/-- From a sound checkpoint, an ensemble that is not cancelled gives the analysis
what it would be given without the checkpoint. -/
theorem conditions_eq_everyCondition
    (sound : Memo.Sound (context.Reproduces spec alternatives simulate) done)
    (completed : (context.pooledRun spec alternatives simulate reached done).cancelled = false) :
    (context.pooledRun spec alternatives simulate reached done).conditions =
      context.everyCondition spec alternatives simulate := by
  have noneIncomplete := noneCancelled_of_pooledRun completed
  have isPool := pool_eq_map (notMem_of_incompleteConditions_nil (by simp) noneIncomplete)
  rw [List.map_map] at isPool
  have sameReadings := collect_reading sound (List.Subset.refl (context.entries spec alternatives))
  have sameGathered : (collect alternatives done (context.entries spec alternatives)
          ((context.todo spec alternatives done).map fun entry =>
            finished simulate entry.task)).foldl
        (Gathered.gather spec.primaryIndicator.value alternatives) {} =
      ((context.entries spec alternatives).map fun entry =>
          (entry, finished simulate entry.task)).foldl
        (Gathered.gather spec.primaryIndicator.value alternatives) {} := by
    rw [← foldl_gather_reading, todo, sameReadings]
    rw [← foldl_gather_reading _ _ ((context.entries spec alternatives).map fun entry =>
        (entry, finished simulate entry.task)), List.map_map]
    rfl
  unfold pooledRun ensembleRun everyCondition
  dsimp only
  rw [noneIncomplete, isPool]
  simp only [Function.comp_def]
  rw [sameGathered]

theorem checkpoint_sound (nodup : (alternatives.map RunAlternative.id).Nodup)
    (sound : Memo.Sound (context.Reproduces spec alternatives simulate) done) :
    Memo.Sound (context.Reproduces spec alternatives simulate)
      (context.pooledRun spec alternatives simulate reached done).checkpoint := by
  refine Memo.Sound.record (sound.map RunReport.kept fun _ _ isRight => isRight) ?_
  rintro ⟨key, kept⟩ isFresh
  obtain ⟨⟨entry, outcome⟩, isResult, isReport⟩ := List.mem_filterMap.mp isFresh
  cases outcome with
  | report report =>
    obtain ⟨rfl, rfl⟩ := Prod.mk.inj (Option.some.inj isReport)
    obtain ⟨isTodo, isSimulated⟩ := report_of_mem_zip isResult
    intro other isOther sameKey
    have isEntry := (List.mem_filter.mp isTodo).1
    rw [task_eq_of_key nodup isOther isEntry sameKey]
    exact ⟨report, isSimulated, rfl⟩
  | raised | cancelled => cases isReport

end EnsembleContext
end UrbanFlow.Uncertainty
