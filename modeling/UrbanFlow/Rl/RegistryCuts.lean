import UrbanFlow.Rl.RegistryFiles

/-!
# Operations of the model registry that are cut off

What each operation of the registry performs, and what it leaves wherever it is cut off:
the index before it or the one after it, with the files that this lists.
-/

namespace UrbanFlow.ModelRegistry

open ModelError FileProgram FileOp

variable {Data Value : Type} {root : FsPath} {names : ModelName → Prop}
  {fs : FileSystem (RegistryFile Data Value)}
  {index : ModelIndex Value}

/-! ## Writing a file and the index -/

/-- A file is opened for writing and written. -/
theorem writeFile_run {name : String} {parent : FsPath}
    (isFile : fs (name :: parent) ≠ some .directory) (isParent : fs parent = some .directory)
    (content : RegistryFile Data Value) : (writeFile (name :: parent) content).run fs =
      ([.truncate (name :: parent) .truncated, .write (name :: parent) content], .ok ()) := by
  have opens : (FileOp.truncate (name :: parent) RegistryFile.truncated).check fs = .ok () := by
    dsimp only [FileOp.check]
    cases there : fs (name :: parent) with
    | none => simp only [FileSystem.checkParent, isParent]
    | some node =>
      cases node with
      | directory => exact absurd there isFile
      | file => rfl
  unfold writeFile
  rw [bind_run (perform_run os opens),
    perform_run os rfl]
  rfl

/-- Written, the file has its content. -/
@[simp] theorem applyAll_writeFile (path : FsPath) (first second : RegistryFile Data Value)
    (fs : FileSystem (RegistryFile Data Value)) :
    applyAll [.truncate path first, .write path second] fs =
      Function.update fs path (some (.file second)) := by
  simp only [applyAll_cons, applyAll_nil, FileOp.apply, Function.update_idem]

/-- The operations that replace the index. -/
def saveOps (root : FsPath) (index : ModelIndex Value) : List (FileOp (RegistryFile Data Value)) :=
  [.truncate (temporaryPath root) .truncated, .write (temporaryPath root) (.index index),
    .replace (temporaryPath root) (indexPath root)]

theorem save_run (ready : Ready root names fs) (index : ModelIndex Value) :
    (save root index).run fs = (saveOps root index, .ok ()) := by
  have writes : (writeFile (temporaryPath root) (.index index)).run fs = _ :=
    writeFile_run ready.temporary ready.top (.index index)
  have replaces : (FileOp.replace (temporaryPath root) (indexPath root)).check
      (Function.update fs (temporaryPath root)
        (some (.file (RegistryFile.index index)))) = .ok () := by
    dsimp only [FileOp.check]
    rw [Function.update_self, Function.update_of_ne temporaryPath_ne_indexPath.symm]
    cases there : fs (indexPath root) with
    | none => rfl
    | some node =>
      cases node with
      | directory => exact absurd there ready.index
      | file => rfl
  unfold save
  rw [bind_run writes, ← temporaryPath, applyAll_writeFile,
    perform_run os replaces]
  rfl

theorem saved_holds (compatible : Compatible root names) (ready : Ready root names fs)
    (lists : Lists root names index fs) :
    Holds root names index (applyAll (saveOps root index) fs) := by
  have state : applyAll (saveOps root index) fs = Function.update (Function.update
          (Function.update fs (temporaryPath root) (some (.file (.index index))))
          (indexPath root) (some (.file (.index index))))
        (temporaryPath root) none := by
    simp only [saveOps, applyAll_cons, applyAll_nil, FileOp.apply,
      Function.update_idem, Function.update_self]
  have other : ∀ path, path ≠ temporaryPath root → path ≠ indexPath root →
      applyAll (saveOps root index) fs path = fs path := by
    intro path notTemporary notIndex
    rw [state, Function.update_of_ne notTemporary, Function.update_of_ne notIndex,
      Function.update_of_ne notTemporary]
  have written := ready.file ready.temporary ready.top compatible.temporaryFree (.index index)
  refine ⟨?_, ?_, lists.of_agree ?_ ?_ ?_⟩
  · rw [state]
    apply Ready.remove
    · exact written.file written.index written.top compatible.indexFree (.index index)
    · rw [Function.update_of_ne temporaryPath_ne_indexPath, Function.update_self]
      simp
  · have isIndex : applyAll (saveOps root index) fs (indexPath root) =
        some (.file (.index index)) := by
      rw [state, Function.update_of_ne temporaryPath_ne_indexPath.symm, Function.update_self]
    unfold load FileProgram.read
    dsimp only
    rw [isIndex]
  · intro name _ version
    exact other _ (fun same => absurd (List.cons.inj same).1 (by decide))
      fun same => absurd (List.cons.inj same).1 (by decide)
  · intro name _ version
    exact other _ (fun same => absurd (List.cons.inj same).1 (by decide))
      fun same => absurd (List.cons.inj same).1 (by decide)
  · intro name _ version
    exact other _ (fun same => versionText_ne version (by decide) (List.cons.inj same).1)
      fun same => versionText_ne version (by decide) (List.cons.inj same).1

theorem save_cut (compatible : Compatible root names) (holds : Holds root names index fs)
    {other : ModelIndex Value} (lists : Lists root names other fs) (count : Nat) :
    Holds root names index (applyAll ((saveOps root other).take count) fs) ∨
      Holds root names other (applyAll ((saveOps root other).take count) fs) := by
  match count with
  | 0 => exact .inl holds
  | 1 => exact .inl (holds.temporary compatible .truncated)
  | 2 =>
    left
    change Holds root names index (applyAll [.truncate (temporaryPath root) .truncated,
        .write (temporaryPath root) (.index other)] fs)
    rw [applyAll_writeFile]
    exact holds.temporary compatible (.index other)
  | count + 3 =>
    right
    rw [List.take_of_length_le (by simp [saveOps])]
    exact saved_holds compatible holds.ready lists

theorem cut_append {Content : Type} (first second : List (FileOp Content)) (count : Nat)
    (fs : FileSystem Content) : (∃ other, applyAll ((first ++ second).take count) fs =
        applyAll (first.take other) fs) ∨
      ∃ other, applyAll ((first ++ second).take count) fs =
        applyAll (second.take other) (applyAll first fs) := by
  rcases Nat.le_total count first.length with isShort | isLong
  · left
    exact ⟨count, by rw [List.take_append_of_le_length isShort]⟩
  · right
    refine ⟨count - first.length, ?_⟩
    rw [List.take_append, List.take_of_length_le isLong, applyAll_append]

/-! ## Entries of the index -/

theorem entryOf_setKey (name other : ModelName) (entry : ModelEntry Value)
    (index : ModelIndex Value) : entryOf (setKey name.text entry index) other =
      if other.text = name.text then entry else entryOf index other := by
  unfold entryOf
  rw [lookup_setKey]
  split <;> rfl

theorem Lists.replaced (lists : Lists root names index fs) {name : ModelName}
    {entry other : ModelEntry Value} (found : index.lookup name.text = some entry)
    (sameVersions : other.versions = entry.versions) (sound : other.Sound) :
    Lists root names (setKey name.text other index) fs := by
  have sameCount : ∀ further,
      count (setKey name.text other index) further = count index further := by
    intro further
    unfold count
    rw [entryOf_setKey]
    split
    · next same =>
        unfold entryOf
        rw [same, found, sameVersions, Option.getD_some]
    · rfl
  refine ⟨fun text further isFurther => ?_, fun further isName version isPositive => ?_,
    fun further isName version => ?_⟩
  · rw [lookup_setKey] at isFurther
    split at isFurther
    · rw [← Option.some.inj isFurther]
      exact sound
    · exact lists.sound text further isFurther
  · rw [sameCount]
    exact lists.listed further isName version isPositive
  · rw [sameCount]
    exact lists.unlisted further isName version

/-! ## Stages -/

/-- What a move to a stage may leave in the index: the old one, or one in which the version
has moved and the rest is as before. -/
inductive Moved
    (name : ModelName)
    (version : Int)
    (stage : String)
    (index : ModelIndex Value) : ModelIndex Value → Prop
  | unmoved : Moved name version stage index index
  | moved (after : ModelIndex Value) (target : ModelStage) (entry : ModelEntry Value)
      (history : List (PromotionRow Value))
      (isStage : ModelStage.ofText? stage = some target)
      (found : index.lookup name.text = some entry)
      (lookup : ∀ text, after.lookup text = if text = name.text then
          some { entry with
            stages := restaged version target entry.stages
            history := history }
        else index.lookup text) :
      Moved name version stage index after

theorem setStage_run (holds : Holds root names index fs) (name : ModelName) (version : Int)
    (stage : String) : (∃ error, (setStage root name version stage).run fs = ([], .error error)) ∨
      ∃ target entry, ModelStage.ofText? stage = some target ∧ index.lookup name.text = some entry ∧
        (setStage root name version stage).run fs = (saveOps root (setKey name.text
            { entry with stages := restaged version target entry.stages } index), .ok ()) ∧
        Lists root names (setKey name.text
          { entry with stages := restaged version target entry.stages } index) fs := by
  unfold setStage
  cases isStage : ModelStage.ofText? stage with
  | none => exact .inl ⟨_, rfl⟩
  | some target =>
    dsimp only
    rw [bind_run holds.loads]
    cases found : index.lookup name.text with
    | none => exact .inl ⟨_, rfl⟩
    | some entry =>
      dsimp only
      by_cases isKey : (entry.stages.lookup version).isSome
      · right
        have isMember : version ∈ entry.stages.map Prod.fst := by
          obtain ⟨item, isItem, same⟩ := List.lookup_isSome_iff.mp isKey
          exact List.mem_map.mpr ⟨item, isItem, (beq_iff_eq.mp same).symm⟩
        have sound := (holds.lists.sound name.text entry found).restaged isMember target
        refine ⟨target, entry, rfl, rfl, ?_, holds.lists.replaced found rfl sound⟩
        rw [if_pos isKey, applyAll_nil, save_run holds.ready, List.nil_append]
      · left
        rw [if_neg isKey]
        exact ⟨_, rfl⟩

theorem Moved.of_setStage {name : ModelName} {version : Int} {stage : String}
    {target : ModelStage} {entry : ModelEntry Value}
    (isStage : ModelStage.ofText? stage = some target)
    (found : index.lookup name.text = some entry) (history : List (PromotionRow Value)) :
    Moved name version stage index (setKey name.text { entry with
          stages := restaged version target entry.stages
          history := history }
        index) :=
  .moved _ target entry history isStage found fun text => lookup_setKey name.text text _ index

section

variable (compatible : Compatible root names) (holds : Holds root names index fs)
  (name : ModelName) (version : Int) (stage : String)

include compatible holds

theorem setStage_cut (count : Nat) : ∃ after, Moved name version stage index after ∧
      Holds root names after ((setStage root name version stage).cutOff count fs) := by
  unfold cutOff
  obtain ⟨_, raises⟩ | ⟨_, entry, isStage, found, runs, lists⟩ :=
    setStage_run holds name version stage
  · rw [raises]
    exact ⟨index, .unmoved, by simpa using holds⟩
  · rw [runs]
    obtain before | saved := save_cut compatible holds lists count
    · exact ⟨index, .unmoved, before⟩
    · exact ⟨_, .of_setStage isStage found entry.history, saved⟩

theorem promote_cut (note : PromotionNote Value) (now : String) (count : Nat) :
    ∃ after, Moved name version stage index after ∧ Holds root names after
        ((promote root name version stage note now).cutOff count fs) := by
  obtain ⟨error, raises⟩ | ⟨target, entry, isStage, found, runs, lists⟩ :=
    setStage_run holds name version stage
  · unfold cutOff promote
    rw [bind_raise raises]
    exact ⟨index, .unmoved, by simpa using holds⟩
  · have saved := saved_holds compatible holds.ready lists
    have lookup : (setKey name.text
        { entry with stages := restaged version target entry.stages } index).lookup name.text =
        some { entry with stages := restaged version target entry.stages } := by
      rw [lookup_setKey, if_pos rfl]
    have sound := saved.lists.sound name.text _ lookup
    have soundLogged : ModelEntry.Sound { entry with
          stages := restaged version target entry.stages
          history := entry.history ++
            [{ version := version, stage := stage, note := note, time := now }] } :=
      ⟨sound.versions, sound.stages, sound.production⟩
    have sameVersions : ModelEntry.versions { entry with
          stages := restaged version target entry.stages
          history := entry.history ++
            [{ version := version, stage := stage, note := note, time := now }] } =
          ModelEntry.versions { entry with stages := restaged version target entry.stages } := rfl
    have logged := saved.lists.replaced lookup sameVersions soundLogged
    unfold cutOff promote
    rw [bind_run runs, bind_run saved.loads, lookup]
    dsimp only
    rw [applyAll_nil, List.nil_append, save_run saved.ready]
    obtain ⟨other, isCut⟩ | ⟨other, isCut⟩ := cut_append (saveOps root (setKey name.text
        { entry with stages := restaged version target entry.stages } index)) _ count fs
    · rw [isCut]
      obtain before | after := save_cut compatible holds lists other
      · exact ⟨index, .unmoved, before⟩
      · exact ⟨_, .of_setStage isStage found entry.history, after⟩
    · rw [isCut]
      obtain before | after := save_cut compatible saved logged other
      · exact ⟨_, .of_setStage isStage found entry.history, before⟩
      · refine ⟨_, ?_, after⟩
        refine .moved _ target entry (entry.history ++
          [{ version := version, stage := stage, note := note, time := now }])
          isStage found fun text => ?_
        rw [lookup_setKey, lookup_setKey]
        split <;> rfl

end

section

variable (root : FsPath) (fs : FileSystem (RegistryFile Data Value)) (name : ModelName)
  (version : Int)

/-- The stored value of a metric of a version. -/
def metricOf (metric : String) : Option Value := match ((metadata root name version).run fs).2 with
  | .ok metadata => metadata.metrics.lookup metric
  | .error _ => none

/-- Reading performs no operation. -/
theorem metadata_run : (∃ error, (metadata root name version).run fs = ([], .error error)) ∨
      ∃ metadata, (ModelRegistry.metadata root name version).run fs = ([], .ok metadata) ∧
        fs (metaPath root name version) = some (.file (.metadata metadata)) := by
  unfold metadata FileProgram.read FileSystem.content
  dsimp only
  cases there : fs (metaPath root name version) with
  | none => exact .inl ⟨_, rfl⟩
  | some node =>
    cases node with
    | directory => exact .inl ⟨_, rfl⟩
    | file content =>
      cases content with
      | metadata metadata => exact .inr ⟨metadata, rfl, rfl⟩
      | model data | index index | truncated => exact .inl ⟨_, rfl⟩

end

/-- `stage_version` performs no operation either. -/
theorem stageVersion_run (holds : Holds root names index fs) (name : ModelName) (stage : String) :
    (stageVersion root name stage).run fs =
      ([], .ok (latestIn stage (entryOf index name).stages)) := by
  unfold stageVersion
  rw [bind_run holds.loads]
  rfl

/-- What is read of the version in a stage. -/
theorem heldMetric_run (root : FsPath) (fs : FileSystem (RegistryFile Data Value))
    (name : ModelName) (metric : String) (held : Option Int) :
    (∃ error, (heldMetric root name metric held).run fs = ([], .error error)) ∨
      ∃ incumbent, (heldMetric root name metric held).run fs = ([], .ok incumbent) ∧
        ∀ version, held = some version → metricOf root fs name version metric = incumbent := by
  cases held with
  | none => exact .inr ⟨none, rfl, nofun⟩
  | some version =>
    unfold heldMetric
    obtain ⟨error, raises⟩ | ⟨data, reads, -⟩ := metadata_run root fs name version
    · left
      rw [bind_raise raises]
      exact ⟨error, rfl⟩
    · right
      rw [bind_run reads]
      refine ⟨data.metrics.lookup metric, rfl, fun other same => ?_⟩
      rw [← Option.some.inj same]
      unfold metricOf
      rw [reads]

section

variable [LT Value] [DecidableLT Value]

theorem promoteOver_run (root : FsPath) (fs : FileSystem (RegistryFile Data Value))
    (name : ModelName) (version : Int) (metric : String) (lowerIsBetter : Bool)
    (stage now : String) (candidate : Option Value) (held : Option Int) (incumbent : Option Value) :
    ((promoteOver root name version metric lowerIsBetter stage now candidate held
        incumbent).run fs).1 = [] ∨
      ∃ note, ((promoteOver root name version metric lowerIsBetter stage now candidate held
          incumbent).run fs).1 = ((promote root name version stage note now).run fs).1 ∧
        (held ≠ none → ∃ better worse, candidate = some better ∧ incumbent = some worse ∧
          Better lowerIsBetter better worse) := by
  unfold promoteOver
  by_cases isHeld : held = some version
  · rw [if_pos isHeld]
    exact .inl rfl
  · rw [if_neg isHeld]
    cases candidate with
    | none => exact .inl rfl
    | some better =>
      cases held with
      | none => exact .inr ⟨_, bind_pure_ops _ _ _, fun absent => absurd rfl absent⟩
      | some =>
        cases incumbent with
        | none => exact .inl rfl
        | some worse =>
          dsimp only
          by_cases isBetter : Better lowerIsBetter better worse
          · rw [if_pos isBetter]
            exact .inr ⟨_, bind_pure_ops _ _ _,
              fun _ => ⟨better, worse, rfl, rfl, isBetter⟩⟩
          · rw [if_neg isBetter]
            exact .inl rfl

/-- `promote_if_better` does nothing, or promotes a version whose metric is strictly
better than that of the version in the stage, if there is one. -/
theorem promoteIfBetter_run (holds : Holds root names index fs) (name : ModelName) (version : Int)
    (metric : String) (lowerIsBetter : Bool) (stage now : String) :
    ((promoteIfBetter root name version metric lowerIsBetter stage now).run fs).1 = [] ∨
      ∃ note, ((promoteIfBetter root name version metric lowerIsBetter stage now).run fs).1 =
          ((promote root name version stage note now).run fs).1 ∧
        ∀ held, latestIn stage (entryOf index name).stages = some held → ∃ better worse,
            metricOf root fs name version metric = some better ∧
            metricOf root fs name held metric = some worse ∧ Better lowerIsBetter better worse := by
  unfold promoteIfBetter
  obtain ⟨error, raises⟩ | ⟨data, reads, -⟩ := metadata_run root fs name version
  · left
    rw [bind_raise raises]
  · rw [bind_run reads, applyAll_nil,
      bind_run (stageVersion_run holds name stage), applyAll_nil]
    obtain ⟨error, raises⟩ | ⟨incumbent, readsHeld, isHeld⟩ :=
      heldMetric_run root fs name metric (latestIn stage (entryOf index name).stages)
    · left
      rw [bind_raise raises]
      rfl
    · rw [bind_run readsHeld, applyAll_nil]
      have candidate : metricOf root fs name version metric = data.metrics.lookup metric := by
        unfold metricOf
        rw [reads]
      obtain nothing | ⟨note, sameOps, isBetter⟩ := promoteOver_run root fs name version
        metric lowerIsBetter stage now (data.metrics.lookup metric)
        (latestIn stage (entryOf index name).stages) incumbent
      · exact .inl nothing
      · refine .inr ⟨note, sameOps, fun held isLatest => ?_⟩
        obtain ⟨better, worse, isCandidate, isIncumbent, strictly⟩ := isBetter (by simp [isLatest])
        exact ⟨better, worse, candidate.trans isCandidate,
          (isHeld held isLatest).trans isIncumbent, strictly⟩

end

/-! ## Registering -/

theorem eq_of_text {first second : ModelName} (same : first.text = second.text) :
    first = second := by
  cases first
  cases second
  cases same
  rfl

/-- The entry with its next version. -/
def nextEntry (index : ModelIndex Value) (name : ModelName) : ModelEntry Value :=
  { entryOf index name with
    versions := (entryOf index name).versions ++ [count index name + 1]
    stages := setKey ((count index name + 1 : Nat) : Int) .none (entryOf index name).stages }

theorem count_nextEntry (index : ModelIndex Value) (name other : ModelName) :
    count (setKey name.text (nextEntry index name) index) other =
      if other = name then count index name + 1 else count index other := by
  unfold count
  rw [entryOf_setKey]
  by_cases same : other = name
  · rw [if_pos (congrArg ModelName.text same), if_pos same]
    exact List.length_append
  · rw [if_neg fun sameText => same (eq_of_text sameText), if_neg same]

theorem Lists.extended (compatible : Compatible root names) (lists : Lists root names index fs)
    {name : ModelName} (isName : names name) {after : FileSystem (RegistryFile Data Value)}
    (agree : ∀ path, path ≠ versionDirectory root name (count index name + 1 : Nat) →
        path ≠ modelPath root name (count index name + 1 : Nat) →
          path ≠ metaPath root name (count index name + 1 : Nat) → after path = fs path)
    (readable : Readable root after name (count index name + 1)) :
    Lists root names (setKey name.text (nextEntry index name) index) after := by
  have other : ∀ further, names further → ∀ version : Nat,
      ¬ (further = name ∧ version = count index name + 1) →
        after (modelPath root further version) = fs (modelPath root further version) ∧
        after (metaPath root further version) = fs (metaPath root further version) ∧
        after (versionDirectory root further version) =
          fs (versionDirectory root further version) := by
    intro further isFurther version differs
    have differ : versionDirectory root further version ≠
        versionDirectory root name (count index name + 1 : Nat) := fun same =>
      differs (versionDirectory_inj compatible isFurther isName same)
    refine ⟨agree _ ?_ ?_ ?_, agree _ ?_ ?_ ?_, agree _ differ ?_ ?_⟩
    · exact fun same => versionText_ne _ (by decide) (List.cons.inj same).1.symm
    · exact fun same => differ (List.cons.inj same).2
    · exact modelPath_ne_metaPath _ _ _ _
    · exact fun same => versionText_ne _ (by decide) (List.cons.inj same).1.symm
    · exact fun same => modelPath_ne_metaPath _ _ _ _ same.symm
    · exact fun same => differ (List.cons.inj same).2
    · exact fun same => versionText_ne _ (by decide) (List.cons.inj same).1
    · exact fun same => versionText_ne _ (by decide) (List.cons.inj same).1
  refine ⟨fun text entry found => ?_, fun further isFurther version isPositive isListed => ?_,
    fun further isFurther version isLater => ?_⟩
  · rw [lookup_setKey] at found
    split at found
    · rw [← Option.some.inj found]
      exact (lists.entry_sound name).registered
    · exact lists.sound text entry found
  · rw [count_nextEntry] at isListed
    by_cases isNext : further = name ∧ version = count index name + 1
    · rw [isNext.1, isNext.2]
      exact readable
    · obtain ⟨sameModel, sameMeta, -⟩ := other further isFurther version isNext
      unfold Readable
      rw [sameModel, sameMeta]
      refine lists.listed further isFurther version isPositive ?_
      by_cases same : further = name
      · rw [if_pos same] at isListed
        have notNext : version ≠ count index name + 1 := fun isSame => isNext ⟨same, isSame⟩
        rw [same]
        omega
      · rw [if_neg same] at isListed
        exact isListed
  · rw [count_nextEntry] at isLater
    by_cases same : further = name
    · rw [if_pos same] at isLater
      obtain ⟨-, -, sameDirectory⟩ := other further isFurther version
        fun isNext => isLater.ne' isNext.2
      rw [sameDirectory]
      refine lists.unlisted further isFurther version ?_
      rw [same]
      omega
    · rw [if_neg same] at isLater
      obtain ⟨-, -, sameDirectory⟩ := other further isFurther version fun isNext => same isNext.1
      rw [sameDirectory]
      exact lists.unlisted further isFurther version isLater

/-- The file system with the directory of a version and its two files. -/
def withVersion (root : FsPath) (name : ModelName) (version : Nat) (data : Data)
    (metadata : ModelMetadata Value)
    (fs : FileSystem (RegistryFile Data Value)) : FileSystem (RegistryFile Data Value) :=
  Function.update (Function.update
      (Function.update fs (versionDirectory root name version) (some .directory))
      (modelPath root name version) (some (.file (.model data))))
    (metaPath root name version) (some (.file (.metadata metadata)))

theorem withVersion_ready (compatible : Compatible root names) (ready : Ready root names fs)
    {name : ModelName} (isName : names name) {version : Nat}
    (isNew : fs (versionDirectory root name version) = none)
    (isParent : fs (directory root name) = some .directory) (data : Data)
    (metadata : ModelMetadata Value) : (writeFile (modelPath root name version) (.model data)).run
        (Function.update fs (versionDirectory root name version) (some .directory)) =
      ([.truncate (modelPath root name version) .truncated,
        .write (modelPath root name version) (.model data)], .ok ()) ∧
    (writeFile (metaPath root name version) (.metadata metadata)).run (Function.update
          (Function.update fs (versionDirectory root name version) (some .directory))
          (modelPath root name version) (some (.file (.model data)))) =
      ([.truncate (metaPath root name version) .truncated,
        .write (metaPath root name version) (.metadata metadata)], .ok ()) ∧
    Ready root names (withVersion root name version data metadata fs) := by
  have noChild : ∀ child, fs (child :: versionDirectory root name version) = none := by
    intro child
    by_contra isThere
    have isDirectory := ready.well _ _ isThere
    rw [isNew] at isDirectory
    exact nomatch isDirectory
  have made : Ready root names
      (Function.update fs (versionDirectory root name version) (some .directory)) :=
    ready.mkdir isParent (fun same => versionText_ne _ (by decide) (List.cons.inj same).1)
      fun same => versionText_ne _ (by decide) (List.cons.inj same).1
  have modelNe : modelPath root name version ≠ versionDirectory root name version :=
    FsPath.cons_ne _ _
  have metaNe : metaPath root name version ≠ versionDirectory root name version :=
    FsPath.cons_ne _ _
  have modelFree : Function.update fs (versionDirectory root name version)
      (some .directory) (modelPath root name version) ≠ some .directory := by
    rw [Function.update_of_ne modelNe, modelPath, noChild]
    exact nofun
  have inMade : Function.update fs (versionDirectory root name version)
      (some FsNode.directory) (versionDirectory root name version) = some .directory :=
    Function.update_self _ _ _
  have copied := made.file modelFree inMade
    (fun other isOther => not_suffix_of_version compatible isName isOther _ version)
    (.model data)
  have inCopied : Function.update
      (Function.update fs (versionDirectory root name version) (some FsNode.directory))
      (modelPath root name version) (some (.file (.model data)))
        (versionDirectory root name version) = some .directory := by
    rw [Function.update_of_ne modelNe.symm]
    exact inMade
  have metaFree : Function.update
      (Function.update fs (versionDirectory root name version) (some FsNode.directory))
      (modelPath root name version) (some (.file (.model data)))
        (metaPath root name version) ≠ some .directory := by
    rw [Function.update_of_ne (modelPath_ne_metaPath _ _ _ _).symm,
      Function.update_of_ne metaNe, metaPath, noChild]
    exact nofun
  exact ⟨writeFile_run modelFree inMade _, writeFile_run metaFree inCopied _,
    copied.file metaFree inCopied
      (fun other isOther => not_suffix_of_version compatible isName isOther _ version)
      (.metadata metadata)⟩

/-- With its files a new version is readable, and nothing else changes. -/
theorem withVersion_reads (name : ModelName) (version : Nat) (data : Data)
    (metadata : ModelMetadata Value) (sameName : metadata.name = name.text)
    (sameVersion : metadata.version = version) :
    Readable root (withVersion root name version data metadata fs) name version ∧
      ∀ path, path ≠ versionDirectory root name version →
        path ≠ modelPath root name version → path ≠ metaPath root name version →
          withVersion root name version data metadata fs path = fs path := by
  unfold withVersion Readable
  refine ⟨⟨⟨data, ?_⟩, metadata, Function.update_self _ _ _, sameName, sameVersion⟩,
    fun path notDirectory notModel notMeta => ?_⟩
  · rw [Function.update_of_ne (modelPath_ne_metaPath _ _ _ _), Function.update_self]
  · rw [Function.update_of_ne notMeta, Function.update_of_ne notModel,
      Function.update_of_ne notDirectory]

/-- What `register` performs: it makes the directories a name lies in, then the directory
of the next version, and with the rest of its operations it lists that version. -/
theorem register_run (compatible : Compatible root names) (holds : Holds root names index fs)
    {name : ModelName} (isName : names name) (data : Data) (algo : String)
    (metrics : List (String × Value)) (tags : List (String × String)) (runId : Option String)
    (now : String) :
    ∃ directories rest, (register root name (some data) algo metrics tags runId now).run fs =
        (directories ++ .mkdir (versionDirectory root name (count index name + 1 : Nat)) :: rest,
            .ok (count index name + 1)) ∧
      (∀ cut, Holds root names index (applyAll (directories.take cut) fs)) ∧
      Holds root names (setKey name.text (nextEntry index name) index)
        (applyAll (directories ++
          .mkdir (versionDirectory root name (count index name + 1 : Nat)) :: rest) fs) := by
  let metadata : ModelMetadata Value :=
    ⟨name.text, count index name + 1, algo, metrics, tags, runId, now⟩
  let made := versionDirectory root name (count index name + 1 : Nat)
  let model := modelPath root name (count index name + 1 : Nat)
  let described := metaPath root name (count index name + 1 : Nat)
  have isNew : fs made = none :=
    holds.lists.unlisted name isName (count index name + 1) (Nat.lt_succ_self _)
  have top : fs [] = some .directory :=
    holds.ready.well.directory_of_suffix holds.ready.top List.nil_suffix
  obtain ⟨directories, makes, fills⟩ := mkdirs_new os
    holds.ready.well (holds.ready.clear name isName) isNew false
    (mkdirs_run os holds.ready.well top (holds.ready.clear name isName))
  have filled : Holds root names index (applyAll directories fs) := by
    rw [fills.all]
    exact holds.fill compatible isName (List.suffix_refl _)
  have isParent : applyAll directories fs (directory root name) = some .directory := by
    rw [fills.all]
    exact FileSystem.fill_of_suffix (List.suffix_refl _)
  have stillNew := filled.lists.unlisted name isName (count index name + 1) (Nat.lt_succ_self _)
  obtain ⟨copies, describes, ready⟩ := withVersion_ready compatible filled.ready isName
    stillNew isParent data metadata
  have reads := @withVersion_reads Data Value root (applyAll directories fs) name
    (count index name + 1) data metadata rfl rfl
  have lists := filled.lists.extended compatible isName reads.2 reads.1
  have saved := saved_holds compatible ready lists
  refine ⟨directories, [.truncate model .truncated, .write model (.model data),
    .truncate described .truncated, .write described (.metadata metadata)] ++
    saveOps root (setKey name.text (nextEntry index name) index), ?_, fun cut => ?_, ?_⟩
  · have makesVersion : (mkdirs os made false).run fs =
        (directories ++ [.mkdir made], .ok ()) :=
      makes
    have madeState : applyAll (directories ++ [.mkdir made]) fs =
        Function.update (applyAll directories fs) made (some .directory) := by
      rw [applyAll_append]
      rfl
    have copiedState := applyAll_writeFile model .truncated (.model data)
      (Function.update (applyAll directories fs) made (some .directory))
    have shape : (register root name (some data) algo metrics tags runId now).run fs =
        ((mkdirs os made false >>= fun _ =>
          writeFile model (.model data) >>= fun _ =>
          writeFile described (.metadata metadata) >>= fun _ =>
          save root (setKey name.text (nextEntry index name) index) >>= fun _ =>
          pure (count index name + 1) : Operation Data Value Nat)).run fs := by
      dsimp only [register]
      rw [bind_run holds.loads, applyAll_nil]
      rfl
    unfold withVersion at ready
    rw [shape, bind_run makesVersion, madeState, bind_run copies,
      copiedState, bind_run describes, applyAll_writeFile,
      bind_run (save_run ready _), pure_run]
    simp only [List.append_nil, List.append_assoc, List.cons_append, List.nil_append]
    rfl
  · obtain ⟨path, isSuffix, same⟩ := fills.cut cut
    rw [same]
    exact holds.fill compatible isName isSuffix
  · rw [applyAll_append, ← List.cons_append, applyAll_append]
    have written : applyAll [.mkdir made, .truncate model .truncated,
          .write model (.model data), .truncate described .truncated,
          .write described (.metadata metadata)] (applyAll directories fs) =
        withVersion root name (count index name + 1) data metadata
          (applyAll directories fs) := by
      simp only [applyAll_cons, applyAll_nil, FileOp.apply, Function.update_idem]
      rfl
    rw [written]
    exact saved

end UrbanFlow.ModelRegistry
