import UrbanFlow.Rl.RegistryStages

/-!
# Histories of the model registry

A history is a list of calls, each cut off after some of its file operations or run to
its end. Where no call is cut off between the first file of a version and the index that
lists it, nor while metadata is rewritten in place, the registry stays readable, the next
registration succeeds, and a production version gives way only to a better one.
-/

namespace UrbanFlow.ModelRegistry

open FileProgram

variable {Data Value : Type}

inductive ModelCall (Data Value : Type)
  | register (name : ModelName) (source : Option Data) (algo : String)
      (metrics : List (String × Value))
      (tags : List (String × String))
      (runId : Option String)
      (now : String)
  | setStage (name : ModelName) (version : Int) (stage : String)
  | promote (name : ModelName) (version : Int) (stage : String) (note : PromotionNote Value)
      (now : String)
  | promoteIfBetter (name : ModelName) (version : Int) (metric : String) (lowerIsBetter : Bool)
      (stage now : String)
  | updateMetrics (name : ModelName) (version : Int) (metrics : List (String × Value))

section

variable [LT Value] [DecidableLT Value]

section

variable (root : FsPath) (fs : FileSystem (RegistryFile Data Value))

/-- The file operations of a call. -/
def ModelCall.ops : ModelCall Data Value → List (FileOp (RegistryFile Data Value))
  | .register name source algo metrics tags runId now =>
    ((ModelRegistry.register root name source algo metrics tags runId now).run fs).1
  | .setStage name version stage => ((ModelRegistry.setStage root name version stage).run fs).1
  | .promote name version stage note now =>
    ((ModelRegistry.promote root name version stage note now).run fs).1
  | .promoteIfBetter name version metric lowerIsBetter stage now =>
    ((ModelRegistry.promoteIfBetter root name version metric lowerIsBetter stage now).run fs).1
  | .updateMetrics name version metrics =>
    ((ModelRegistry.updateMetrics root name version metrics).run fs).1

/-- The file system after a call that is cut off after some of its file operations. -/
def afterCall (step : ModelCall Data Value × Nat) : FileSystem (RegistryFile Data Value) :=
  FileOp.applyAll ((step.1.ops root fs).take step.2) fs

def afterHistory
    (history : List (ModelCall Data Value × Nat)) : FileSystem (RegistryFile Data Value) :=
  history.foldl (afterCall root) fs

end

/-- The operation from which on a call must not be cut off: `register` makes the directory
of its version, or `update_metrics` opens the metadata for writing. -/
def Critical (root : FsPath) : ModelCall Data Value → FileOp (RegistryFile Data Value) → Prop
  | .register name _ _ _ _ _ _, .mkdir path =>
    ∃ version : Nat, path = versionDirectory root name version
  | .updateMetrics name version _, .truncate path _ => path = metaPath root name version
  | _, _ => False

/-- The call is cut off before its critical operation, or runs to its end. -/
def Uncut (root : FsPath) (fs : FileSystem (RegistryFile Data Value))
    (step : ModelCall Data Value × Nat) : Prop :=
  (∀ op ∈ (step.1.ops root fs).take step.2, ¬ Critical root step.1 op) ∨
    (step.1.ops root fs).length ≤ step.2

/-- Every call of a history is. -/
def UncutThroughout (root : FsPath) (fs : FileSystem (RegistryFile Data Value)) :
    List (ModelCall Data Value × Nat) → Prop
  | [] => True
  | step :: later => Uncut root fs step ∧ UncutThroughout root (afterCall root fs step) later

def Registers (names : ModelName → Prop) (history : List (ModelCall Data Value × Nat)) : Prop :=
  ∀ step ∈ history, ∀ name source algo metrics tags runId now,
    step.1 = .register name source algo metrics tags runId now → names name

structure Healthy (root : FsPath) (names : ModelName → Prop)
    (fs : FileSystem (RegistryFile Data Value)) : Prop where
  listed : ∀ name, names name → ∃ count,
    (versions root name).run fs = ([], .ok (List.range' 1 count)) ∧
      (∀ version ∈ List.range' 1 count, (resolve root name (.version (version : Nat))).run fs =
            ([], .ok (modelPath root name version)) ∧
          (∃ data, fs (modelPath root name version) = some (.file (.model data))) ∧
          ∃ described, (metadata root name version).run fs = ([], .ok described) ∧
            described.name = name.text ∧ described.version = version) ∧
      ∀ data algo metrics tags runId now,
        ((register root name (some data) algo metrics tags runId now).run fs).2 = .ok (count + 1)
  production : ∀ text first second, InProduction root fs text first →
    InProduction root fs text second → first = second
  better : ∀ name version metric lowerIsBetter stage now cut text before after,
    InProduction root fs text before → InProduction root
        ((promoteIfBetter root name version metric lowerIsBetter stage now).cutOff cut fs)
        text after →
      before ≠ after → text = name.text ∧ after = version ∧
          ∃ candidate incumbent, metricOf root fs name version metric = some candidate ∧
            metricOf root fs name before metric = some incumbent ∧
            Better lowerIsBetter candidate incumbent

variable {root : FsPath} {names : ModelName → Prop} {fs : FileSystem (RegistryFile Data Value)}
  {index : ModelIndex Value}

/-- A registration that is cut off early enough, or not at all. -/
theorem register_cut (compatible : Compatible root names) (holds : Holds root names index fs)
    {name : ModelName} (isName : names name) (source : Option Data) (algo : String)
    (metrics : List (String × Value)) (tags : List (String × String)) (runId : Option String)
    (now : String) (cut : Nat)
    (uncut : Uncut root fs (.register name source algo metrics tags runId now, cut)) :
    ∃ after, Holds root names after
      (afterCall root fs (.register name source algo metrics tags runId now, cut)) := by
  unfold Uncut at uncut
  unfold afterCall
  dsimp only [ModelCall.ops] at uncut ⊢
  cases source with
  | none =>
    have nothing : ((register root name (none : Option Data) algo metrics tags runId
        now).run fs).1 = [] := rfl
    rw [nothing, List.take_nil]
    exact ⟨index, holds⟩
  | some data =>
    obtain ⟨directories, rest, runs, before, after⟩ :=
      register_run compatible holds isName data algo metrics tags runId now
    rw [runs] at uncut ⊢
    dsimp only at uncut ⊢
    rcases Nat.lt_or_ge directories.length cut with isLate | isEarly
    · have critical : FileOp.mkdir (versionDirectory root name (count index name + 1 : Nat)) ∈
          (directories ++ FileOp.mkdir
            (versionDirectory root name (count index name + 1 : Nat)) :: rest).take cut := by
        rw [List.take_append, List.mem_append]
        right
        obtain ⟨more, isMore⟩ : ∃ more, cut - directories.length = more + 1 :=
          Nat.exists_eq_add_one.mpr (by omega)
        rw [isMore, List.take_succ_cons]
        exact List.mem_cons_self
      rcases uncut with none | isAll
      · exact absurd ⟨_, rfl⟩ (none _ critical)
      · rw [List.take_of_length_le isAll]
        exact ⟨_, after⟩
    · rw [List.take_append_of_le_length isEarly]
      exact ⟨index, before cut⟩

theorem updateMetrics_cut (holds : Holds root names index fs) (name : ModelName) (version : Int)
    (metrics : List (String × Value)) (cut : Nat) (uncut : Uncut root fs
      ((.updateMetrics name version metrics : ModelCall Data Value), cut)) : Holds root names index
      (afterCall root fs ((.updateMetrics name version metrics : ModelCall Data Value), cut)) := by
  unfold Uncut at uncut
  unfold afterCall
  dsimp only [ModelCall.ops] at uncut ⊢
  unfold updateMetrics at uncut ⊢
  obtain ⟨error, raises⟩ | ⟨described, reads, isThere⟩ := metadata_run root fs name version
  · rw [bind_raise raises, List.take_nil]
    exact holds
  · have isFile : fs (metaPath root name version) ≠ some .directory := by simp [isThere]
    have inDirectory : fs (versionDirectory root name version) = some .directory :=
      holds.ready.well "meta.json" _ (by
        change fs (metaPath root name version) ≠ none
        simp [isThere])
    have writes := writeFile_run isFile inDirectory (.metadata { described with
        metrics := metrics.foldl (fun merged item => setKey item.1 item.2 merged)
          described.metrics })
    rw [← metaPath] at writes
    rw [bind_run reads, FileOp.applyAll_nil, writes] at uncut ⊢
    dsimp only [List.nil_append] at uncut ⊢
    obtain rfl | rfl | isLong : cut = 0 ∨ cut = 1 ∨ 2 ≤ cut := by omega
    · exact holds
    · rcases uncut with none | isAll
      · exact absurd rfl (none (.truncate (metaPath root name version) .truncated) (by simp))
      · simp at isAll
    · rw [List.take_of_length_le (by simpa using isLong), applyAll_writeFile]
      exact holds.remeasured isThere _

/-- Any call, cut off early enough or not at all. -/
theorem Holds.afterCall (compatible : Compatible root names) (holds : Holds root names index fs)
    (step : ModelCall Data Value × Nat) (registered : ∀ name source algo metrics tags runId now,
      step.1 = .register name source algo metrics tags runId now → names name)
    (uncut : Uncut root fs step) : ∃ after, Holds root names after (afterCall root fs step) := by
  obtain ⟨call, cut⟩ := step
  cases call with
  | register _ source algo metrics tags runId now =>
    exact register_cut compatible holds (registered _ _ _ _ _ _ _ rfl) source algo metrics
      tags runId now cut uncut
  | setStage name version stage =>
    obtain ⟨after, -, holdsAfter⟩ := setStage_cut compatible holds name version stage cut
    exact ⟨after, holdsAfter⟩
  | promote name version stage note now =>
    obtain ⟨after, -, holdsAfter⟩ := promote_cut compatible holds name version stage note now cut
    exact ⟨after, holdsAfter⟩
  | promoteIfBetter name version metric lowerIsBetter stage now =>
    unfold ModelRegistry.afterCall
    dsimp only [ModelCall.ops]
    obtain nothing | ⟨note, sameOps, -⟩ :=
      promoteIfBetter_run holds name version metric lowerIsBetter stage now
    · rw [nothing, List.take_nil]
      exact ⟨index, holds⟩
    · rw [sameOps]
      obtain ⟨after, -, holdsAfter⟩ := promote_cut compatible holds name version stage note now cut
      exact ⟨after, holdsAfter⟩
  | updateMetrics name version metrics =>
    exact ⟨index, updateMetrics_cut holds name version metrics cut uncut⟩

theorem Holds.afterHistory (compatible : Compatible root names)
    {history : List (ModelCall Data Value × Nat)} (holds : Holds root names index fs)
    (registered : Registers names history) (uncut : UncutThroughout root fs history) :
    ∃ after, Holds root names after (afterHistory root fs history) := by
  induction history generalizing fs index with
  | nil => exact ⟨index, holds⟩
  | cons step _ ih =>
    obtain ⟨after, holdsAfter⟩ := holds.afterCall compatible step
      (registered step List.mem_cons_self) uncut.1
    exact ih holdsAfter
      (fun other isLater => registered other (List.mem_cons_of_mem step isLater)) uncut.2

section

variable (compatible : Compatible root names) (holds : Holds root names index fs)

include compatible holds

theorem Holds.better (name : ModelName) (version : Int) (metric : String) (lowerIsBetter : Bool)
    (stage now : String) (cut : Nat) {text : String} {before after : Int}
    (isBefore : InProduction root fs text before)
    (isAfter : InProduction root ((promoteIfBetter root name version metric lowerIsBetter stage now).cutOff cut fs) text after)
    (differs : before ≠ after) : text = name.text ∧ after = version ∧
      ∃ candidate incumbent, metricOf root fs name version metric = some candidate ∧
        metricOf root fs name before metric = some incumbent ∧
        Better lowerIsBetter candidate incumbent := by
  obtain ⟨entry, found, sound, isThere⟩ := holds.inProduction isBefore
  unfold cutOff at isAfter
  obtain nothing | ⟨note, sameOps, isBetter⟩ :=
    promoteIfBetter_run holds name version metric lowerIsBetter stage now
  · rw [nothing, List.take_nil] at isAfter
    obtain ⟨other, foundAfter, _, isThereAfter⟩ := holds.inProduction isAfter
    rw [Option.some.inj (foundAfter.symm.trans found)] at isThereAfter
    exact absurd (production_unique sound isThere isThereAfter) differs
  · rw [sameOps] at isAfter
    obtain ⟨moved, isMoved, holdsAfter⟩ :=
      promote_cut compatible holds name version stage note now cut
    obtain ⟨other, foundAfter, _, isThereAfter⟩ := holdsAfter.inProduction isAfter
    have unmoved : ¬ (before, ModelStage.production) ∈ entry.stages ∨
        (after, ModelStage.production) ∉ entry.stages := by
      by_contra both
      rw [not_or, not_not, not_not] at both
      exact differs (production_unique sound both.1 both.2)
    have notThere := unmoved.resolve_left fun absent => absent isThere
    cases isMoved with
    | unmoved =>
      rw [Option.some.inj (foundAfter.symm.trans found)] at isThereAfter
      exact absurd isThereAfter notThere
    | moved _ _ held _ isStage isHeld lookup =>
      rw [lookup text] at foundAfter
      by_cases same : text = name.text
      · rw [if_pos same] at foundAfter
        rw [same, isHeld] at found
        obtain rfl := Option.some.inj found
        rw [← Option.some.inj foundAfter] at isThereAfter
        rcases production_restaged isThereAfter with ⟨isTarget, isVersion⟩ | ⟨_, stays⟩
        · have isText : ModelStage.production.text = stage := isTarget ▸ text_of_ofText? isStage
          obtain ⟨latest, isLatest, latestHeld, inStages, inStage⟩ := latestIn_of_mem isThere isText
          have isProduction : isLatest = .production := text_injective (inStage.trans isText.symm)
          rw [isProduction] at inStages
          have isIncumbent := production_unique sound inStages isThere
          have entryIs : entryOf index name = held := by
            unfold entryOf
            rw [isHeld, Option.getD_some]
          rw [← entryIs] at latestHeld
          obtain ⟨candidate, incumbent, ofCandidate, ofIncumbent, strictly⟩ :=
            isBetter latest latestHeld
          rw [isIncumbent] at ofIncumbent
          exact ⟨same, isVersion, candidate, incumbent, ofCandidate, ofIncumbent, strictly⟩
        · exact absurd stays notThere
      · rw [if_neg same, found] at foundAfter
        rw [← Option.some.inj foundAfter] at isThereAfter
        exact absurd isThereAfter notThere

/-- Between its operations the registry keeps its promises. -/
theorem Holds.healthy : Healthy root names fs := by
  refine ⟨fun name isName => ?_, fun text first second isFirst isSecond => ?_,
    fun name version metric lowerIsBetter stage now cut text before after isBefore isAfter
      differs => holds.better compatible name version metric lowerIsBetter stage now cut
        isBefore isAfter differs⟩
  · have isRange := (holds.lists.entry_sound name).versions
    refine ⟨count index name, ?_, fun version isListed => ?_,
      fun data algo metrics tags runId now => ?_⟩
    · unfold versions
      rw [bind_run holds.loads]
      unfold count
      rw [← isRange]
      rfl
    · obtain ⟨isPositive, isLast⟩ := List.mem_range'_1.mp isListed
      obtain ⟨⟨data, isModel⟩, described, isMeta, sameName, sameVersion⟩ :=
        holds.lists.listed name isName version isPositive (by omega)
      refine ⟨?_, ⟨data, isModel⟩, described, ?_, sameName, sameVersion⟩
      · unfold resolve
        rw [bind_run holds.loads, FileOp.applyAll_nil]
        cases isLastOne : (entryOf index name).versions.getLast? with
        | none =>
          rw [List.getLast?_eq_none_iff] at isLastOne
          unfold count at isListed
          rw [isLastOne] at isListed
          exact nomatch isListed
        | some =>
          simp only [FileProgram.read, bind_run (pure_run _ _), FileOp.applyAll_nil,
            isModel, List.nil_append]
      · unfold metadata FileProgram.read FileSystem.content
        dsimp only
        rw [isMeta]
    · obtain ⟨_, _, runs, -, -⟩ :=
        register_run compatible holds isName data algo metrics tags runId now
      rw [runs]
  · obtain ⟨entry, found, sound, isThere⟩ := holds.inProduction isFirst
    obtain ⟨other, foundOther, _, isThereOther⟩ := holds.inProduction isSecond
    rw [Option.some.inj (foundOther.symm.trans found)] at isThereOther
    exact production_unique sound isThere isThereOther

end

/-- Whatever is called, and wherever the calls are cut off outside their critical
operations, the registry keeps its promises. -/
theorem registry_healthy (root : FsPath) (names : ModelName → Prop)
    (fs : FileSystem (RegistryFile Data Value)) (history : List (ModelCall Data Value × Nat))
    (compatible : Compatible root names) (fresh : Fresh root fs)
    (registered : Registers names history) (uncut : UncutThroughout root fs history) :
    Healthy root names (afterHistory root fs history) := by
  obtain ⟨after, holds⟩ := fresh.holds.afterHistory compatible registered uncut
  exact holds.healthy compatible

end

/-- The registry's directory, still empty. -/
def emptyModels : FileSystem (RegistryFile Unit Nat) :=
  fun path => if path <:+ ["models"] then some .directory else none

theorem emptyModels_fresh : Fresh ["models"] emptyModels := by
  refine ⟨fun name parent isThere => ?_, by decide, fun path isBelow isOther => ?_⟩
  · unfold emptyModels at isThere ⊢
    split at isThere
    · next isSuffix => exact if_pos ((List.suffix_cons name parent).trans isSuffix)
    · exact absurd rfl isThere
  · unfold emptyModels
    refine if_neg fun isSuffix => isOther ?_
    exact isSuffix.eq_of_length_le isBelow.length_le

def signalControl : ModelName where
  text := "signal-control"
  relative := by decide
  inside := by decide

theorem signalControl_compatible : Compatible ["models"] fun name => name = signalControl := by
  refine ⟨fun first second isFirst isSecond _ => isFirst.trans isSecond.symm, ?_, ?_, ?_⟩
  · rintro first second rfl rfl version isSuffix
    have isLonger := isSuffix.length_le
    unfold versionDirectory at isLonger
    rw [List.length_cons] at isLonger
    omega
  · rintro name rfl
    decide
  · rintro name rfl
    decide

def registration : ModelCall Unit Nat :=
  .register signalControl (some ()) "dqn" [("delay", 20)] [] none "now"

theorem registry_healthy_registered : Healthy ["models"] (fun name => name = signalControl)
      (afterHistory ["models"] emptyModels
        [(registration, 20), (.promote signalControl 1 "production" (.text "") "now", 20)]) :=
  registry_healthy ["models"] (fun name => name = signalControl) emptyModels
    [(registration, 20), (.promote signalControl 1 "production" (.text "") "now", 20)]
    signalControl_compatible emptyModels_fresh
    (by
      intro step isStep name source algo metrics tags runId now isRegister
      rcases List.mem_cons.mp isStep with rfl | isLater
      · exact (ModelCall.register.inj isRegister).1.symm
      · rw [List.mem_singleton] at isLater
        subst isLater
        exact nomatch isRegister)
    ⟨.inr (by decide +kernel), .inr (by decide +kernel), trivial⟩

/-- A registration that is cut off after it has made the directory of its version makes
every later one of the name fail, and an update of metrics that is cut off leaves metadata
that cannot be read. -/
theorem registry_not_healthy : ¬ Healthy ["models"] (fun name => name = signalControl)
        (afterHistory ["models"] emptyModels [(registration, 2)]) ∧
      ¬ Healthy ["models"] (fun name => name = signalControl) (afterHistory ["models"] emptyModels
          [(registration, 20), (.updateMetrics signalControl 1 [("delay", 10)], 1)]) := by
  constructor
  · intro healthy
    obtain ⟨count, -, -, registers⟩ := healthy.listed signalControl rfl
    have fails : ((register ["models"] signalControl (some ()) "dqn" [("delay", 20)] []
        none "now").run (afterHistory ["models"] emptyModels [(registration, 2)])).2 =
          .error (.os .fileExists) := by decide +kernel
    rw [registers] at fails
    exact nomatch fails
  · intro healthy
    obtain ⟨count, isCount, readable, -⟩ := healthy.listed signalControl rfl
    have isOne : ((versions ["models"] signalControl).run (afterHistory ["models"] emptyModels
          [(registration, 20), (.updateMetrics signalControl 1 [("delay", 10)], 1)])).2 =
        .ok [1] := by decide +kernel
    rw [isCount] at isOne
    have isListed : 1 ∈ List.range' 1 count := by
      rw [Except.ok.inj isOne]
      exact List.mem_singleton_self 1
    obtain ⟨-, -, described, reads, -⟩ := readable 1 isListed
    have fails : ((metadata ["models"] signalControl (1 : Nat)).run
        (afterHistory ["models"] emptyModels
          [(registration, 20), (.updateMetrics signalControl 1 [("delay", 10)], 1)])).2 =
        .error .json := by decide +kernel
    rw [reads] at fails
    exact nomatch fails

end UrbanFlow.ModelRegistry
