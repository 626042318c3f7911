import UrbanFlow.Rl.ModelRegistry

/-!
# The files of the model registry

Between its operations the registry's directory holds an index that lists for each name
the versions from one on, the files of every listed version, and no directory of a
version still to come. The frame lemmas say which writes keep this.
-/

namespace UrbanFlow
namespace ModelRegistry

variable {Data Value : Type} {root : FsPath}

theorem versionText_injective :
    Function.Injective fun version : Nat => "v" ++ toString (version : Int) := by
  intro first second same
  have sameLists := congrArg String.toList same
  dsimp only at sameLists
  rw [String.toList_append, String.toList_append, List.append_cancel_left_eq] at sameLists
  have sameDigits : Nat.toDigits 10 first = Nat.toDigits 10 second := by
    rw [← Nat.toList_repr, ← Nat.toList_repr]
    exact sameLists
  have sameNumbers := congrArg (fun digits => Nat.ofDigitChars 10 digits 0) sameDigits
  simpa only [Nat.ofDigitChars_ten_toDigits] using sameNumbers

/-- A version's directory begins with the letter v. -/
theorem versionText_ne (version : Int) {text : String} (isOther : text.toList.head? ≠ some 'v') :
    "v" ++ toString version ≠ text := by
  rintro rfl
  apply isOther
  rw [String.toList_append]
  rfl

/-- The names in use share no directory, none lies in a version of another, and none in a
file of the index. -/
structure Compatible (root : FsPath) (names : ModelName → Prop) : Prop where
  apart : ∀ first second, names first → names second →
    directory root first = directory root second → first = second
  outside : ∀ first second, names first → names second → ∀ version : Nat,
    ¬ versionDirectory root second version <:+ directory root first
  indexFree : ∀ name, names name → ¬ indexPath root <:+ directory root name
  temporaryFree : ∀ name, names name → ¬ temporaryPath root <:+ directory root name

theorem versionDirectory_inj {names : ModelName → Prop} (compatible : Compatible root names)
    {first second : ModelName} (isFirst : names first) (isSecond : names second)
    {version other : Nat}
    (same : versionDirectory root first version = versionDirectory root second other) :
    first = second ∧ version = other := by
  obtain ⟨sameText, sameDirectory⟩ := List.cons.inj same
  exact ⟨compatible.apart first second isFirst isSecond sameDirectory,
    versionText_injective sameText⟩

theorem modelPath_ne_metaPath (first second : ModelName) (version other : Int) :
    modelPath root first version ≠ metaPath root second other := by
  intro same
  exact absurd (List.cons.inj same).1 (by decide)

theorem temporaryPath_ne_indexPath : temporaryPath root ≠ indexPath root := by
  intro same
  exact absurd (List.cons.inj same).1 (by decide)

section

variable {Key Item : Type} [DecidableEq Key]

section

variable {key : Key} {items : List (Key × Item)}

theorem setKey_of_not_mem (isNew : key ∉ items.map Prod.fst) (item : Item) :
    setKey key item items = items ++ [(key, item)] := by
  induction items with
  | nil => rfl
  | cons _ _ ih =>
    rw [List.map_cons, List.mem_cons, not_or] at isNew
    rw [setKey, if_neg (Ne.symm isNew.1), ih isNew.2]
    rfl

theorem keys_setKey_of_mem (isKey : key ∈ items.map Prod.fst) (item : Item) :
    (setKey key item items).map Prod.fst = items.map Prod.fst := by
  induction items with
  | nil => exact absurd isKey (List.not_mem_nil)
  | cons first _ ih =>
    by_cases same : first.1 = key
    · rw [setKey, if_pos same, List.map_cons, List.map_cons, same]
    · rw [List.map_cons, List.mem_cons] at isKey
      rw [setKey, if_neg same, List.map_cons, List.map_cons, ih (isKey.resolve_left (Ne.symm same))]

end

theorem lookup_setKey (key other : Key) (item : Item) (items : List (Key × Item)) :
    (setKey key item items).lookup other =
      if other = key then some item else items.lookup other := by
  induction items with
  | nil =>
    by_cases same : other = key
    · simp [setKey, same]
    · simp [setKey, same, List.lookup_cons, beq_eq_false_iff_ne.mpr same]
  | cons first _ ih =>
    by_cases isFirst : first.1 = key
    · rw [setKey, if_pos isFirst, List.lookup_cons]
      by_cases same : other = key
      · simp [same]
      · have notFirst : (other == first.1) = false := by
          rw [isFirst]
          exact beq_eq_false_iff_ne.mpr same
        rw [beq_eq_false_iff_ne.mpr same, if_neg same, List.lookup_cons, notFirst]
    · rw [setKey, if_neg isFirst, List.lookup_cons, List.lookup_cons, ih]
      by_cases same : other = key
      · have notFirst : (other == first.1) = false := by
          rw [same]
          exact beq_eq_false_iff_ne.mpr (Ne.symm isFirst)
        rw [notFirst]
      · rw [if_neg same, if_neg same]

/-- Setting a key adds at most its own item to those of a kind. -/
theorem countP_setKey_le (kind : Key × Item → Bool) (key : Key) (item : Item)
    (items : List (Key × Item)) : (setKey key item items).countP kind ≤
      items.countP kind + if kind (key, item) then 1 else 0 := by
  induction items with
  | nil => simp [setKey, List.countP_cons]
  | cons first =>
    by_cases isFirst : first.1 = key
    · rw [setKey, if_pos isFirst, List.countP_cons, List.countP_cons]
      omega
    · rw [setKey, if_neg isFirst, List.countP_cons, List.countP_cons]
      omega

end

end ModelRegistry

/-- An entry lists the versions from one on, each with a stage, and at most one of them in
production. -/
structure ModelEntry.Sound {Value : Type} (entry : ModelEntry Value) : Prop where
  versions : entry.versions = List.range' 1 entry.versions.length
  stages : entry.stages.map Prod.fst = entry.versions.map fun version : Nat => (version : Int)
  production : entry.stages.countP (fun item => item.2 = .production) ≤ 1

namespace ModelEntry

variable {Value : Type}

theorem sound_empty : Sound ({} : ModelEntry Value) := ⟨rfl, rfl, Nat.zero_le _⟩

theorem Sound.registered {entry : ModelEntry Value} (sound : entry.Sound) : Sound { entry with
        versions := entry.versions ++ [entry.versions.length + 1]
        stages :=
          setKey ((entry.versions.length + 1 : Nat) : Int) .none entry.stages } := by
  have isNew : ((entry.versions.length + 1 : Nat) : Int) ∉ entry.stages.map Prod.fst := by
    rw [sound.stages]
    intro isKey
    obtain ⟨version, isListed, same⟩ := List.mem_map.mp isKey
    rw [sound.versions, List.mem_range'_1] at isListed
    have sameNat : version = entry.versions.length + 1 := Int.ofNat.inj same
    omega
  refine ⟨?_, ?_, ?_⟩
  · dsimp only
    rw [List.length_append, List.length_singleton, List.range'_1_concat, ← sound.versions,
      Nat.add_comm 1]
  · dsimp only
    rw [ModelRegistry.setKey_of_not_mem isNew, List.map_append, List.map_append, sound.stages]
    rfl
  · dsimp only
    rw [ModelRegistry.setKey_of_not_mem isNew, List.countP_append]
    exact sound.production

theorem Sound.restaged {entry : ModelEntry Value} (sound : entry.Sound) {version : Int}
    (isKey : version ∈ entry.stages.map Prod.fst) (stage : ModelStage) :
    Sound { entry with stages := ModelRegistry.restaged version stage entry.stages } := by
  have demotedKeys : (entry.stages.map fun item =>
      if item.2 = .production then (item.1, ModelStage.archived) else item).map Prod.fst =
        entry.stages.map Prod.fst := by
    rw [List.map_map]
    apply List.map_congr_left
    intro item _
    dsimp only [Function.comp]
    split <;> rfl
  have demotedNone : (entry.stages.map fun item =>
      if item.2 = .production then (item.1, ModelStage.archived) else item).countP
        (fun item => item.2 = .production) = 0 := by
    rw [List.countP_eq_zero]
    intro item isItem
    obtain ⟨before, _, rfl⟩ := List.mem_map.mp isItem
    split
    · simp
    · simpa
  unfold ModelRegistry.restaged
  refine ⟨sound.versions, ?_, ?_⟩
  · dsimp only
    rw [← sound.stages]
    split
    · rw [ModelRegistry.keys_setKey_of_mem (demotedKeys.symm ▸ isKey), demotedKeys]
    · exact ModelRegistry.keys_setKey_of_mem isKey _
  · dsimp only
    split
    · refine (ModelRegistry.countP_setKey_le _ _ _ _).trans ?_
      rw [demotedNone]
      split <;> omega
    · next notProduction =>
        refine (ModelRegistry.countP_setKey_le _ _ _ _).trans ?_
        rw [if_neg (by simpa using notProduction), Nat.add_zero]
        exact sound.production

end ModelEntry
namespace ModelRegistry

variable {Data Value : Type} {root : FsPath} {names : ModelName → Prop}

/-- What every write finds: the registry's directory, no directory in the place of the
index, and no file in the way of a name. -/
structure Ready (root : FsPath) (names : ModelName → Prop)
    (fs : FileSystem (RegistryFile Data Value)) : Prop where
  well : fs.WellFormed
  top : fs root = some .directory
  index : fs (indexPath root) ≠ some .directory
  temporary : fs (temporaryPath root) ≠ some .directory
  clear : ∀ name, names name → fs.Clear (directory root name)

/-- The versions that an index lists for a name. -/
def count (index : ModelIndex Value) (name : ModelName) : Nat :=
  (entryOf index name).versions.length

def Readable (root : FsPath) (fs : FileSystem (RegistryFile Data Value)) (name : ModelName)
    (version : Nat) : Prop :=
  (∃ data, fs (modelPath root name version) = some (.file (.model data))) ∧
    ∃ metadata, fs (metaPath root name version) = some (.file (.metadata metadata)) ∧
      metadata.name = name.text ∧ metadata.version = version

structure Lists (root : FsPath) (names : ModelName → Prop) (index : ModelIndex Value)
    (fs : FileSystem (RegistryFile Data Value)) : Prop where
  sound : ∀ text entry, index.lookup text = some entry → entry.Sound
  listed : ∀ name, names name → ∀ version : Nat, 1 ≤ version →
    version ≤ count index name → Readable root fs name version
  unlisted : ∀ name, names name → ∀ version : Nat, count index name < version →
    fs (versionDirectory root name version) = none

/-- The registry's directory between two operations. -/
structure Holds (root : FsPath) (names : ModelName → Prop) (index : ModelIndex Value)
    (fs : FileSystem (RegistryFile Data Value)) : Prop where
  ready : Ready root names fs
  loads : (load root).run fs = ([], .ok index)
  lists : Lists root names index fs

theorem Lists.entry_sound {index : ModelIndex Value} {fs : FileSystem (RegistryFile Data Value)}
    (lists : Lists root names index fs) (name : ModelName) : (entryOf index name).Sound := by
  unfold entryOf
  cases found : index.lookup name.text with
  | none => exact ModelEntry.sound_empty
  | some entry => exact lists.sound name.text entry found

/-- A path that lies in a version's directory is in nobody's way. -/
theorem not_suffix_of_version (compatible : Compatible root names) {name other : ModelName}
    (isName : names name) (isOther : names other) (file : String) (version : Nat) :
    ¬ file :: versionDirectory root name version <:+ directory root other := by
  intro isSuffix
  exact compatible.outside other name isOther isName version
    ((List.suffix_cons file _).trans isSuffix)

section

variable {fs : FileSystem (RegistryFile Data Value)}

variable {parent path : FsPath} {index : ModelIndex Value}
  {after : FileSystem (RegistryFile Data Value)}

section

variable (ready : Ready root names fs)

include ready

theorem Ready.file {name : String}
    (isFile : fs (name :: parent) ≠ some .directory) (isParent : fs parent = some .directory)
    (free : ∀ other, names other → ¬ name :: parent <:+ directory root other)
    (content : RegistryFile Data Value) :
    Ready root names (Function.update fs (name :: parent) (some (.file content))) := by
  have keepsDirectory : ∀ path, fs path = some .directory →
      Function.update fs (name :: parent) (some (.file content)) path = some .directory := by
    intro path isDirectory
    rw [Function.update_of_ne]
    · exact isDirectory
    · rintro rfl
      exact isFile isDirectory
  have makesNone : ∀ path, fs path ≠ some .directory →
      Function.update fs (name :: parent) (some (.file content)) path ≠ some .directory := by
    intro path notDirectory
    by_cases same : path = name :: parent
    · rw [same, Function.update_self]
      simp
    · rw [Function.update_of_ne same]
      exact notDirectory
  refine ⟨fun child path isThere => ?_, keepsDirectory root ready.top,
    makesNone _ ready.index, makesNone _ ready.temporary, fun other isOther => ?_⟩
  · by_cases same : child :: path = name :: parent
    · rw [(List.cons.inj same).2]
      exact keepsDirectory parent isParent
    · rw [Function.update_of_ne same] at isThere
      exact keepsDirectory path (ready.well child path isThere)
  · intro path isSuffix further
    rw [Function.update_of_ne]
    · exact ready.clear other isOther path isSuffix further
    · rintro rfl
      exact free other isOther isSuffix

/-- A file that is taken away. -/
theorem Ready.remove (isFile : fs path ≠ some .directory) :
    Ready root names (Function.update fs path none) := by
  have keepsDirectory : ∀ other, fs other = some .directory →
      Function.update fs path none other = some .directory := by
    intro other isDirectory
    rw [Function.update_of_ne]
    · exact isDirectory
    · rintro rfl
      exact isFile isDirectory
  have comesFrom : ∀ other node, Function.update fs path none other = some node →
      fs other = some node := by
    intro other node isThere
    by_cases same : other = path
    · rw [same, Function.update_self] at isThere
      exact nomatch isThere
    · rw [Function.update_of_ne same] at isThere
      exact isThere
  refine ⟨fun child parent isThere => ?_, keepsDirectory root ready.top,
    fun isDirectory => ready.index (comesFrom _ _ isDirectory),
    fun isDirectory => ready.temporary (comesFrom _ _ isDirectory),
    fun name isName other isSuffix content isContent =>
      ready.clear name isName other isSuffix content (comesFrom _ _ isContent)⟩
  obtain ⟨node, isNode⟩ := Option.ne_none_iff_exists'.mp isThere
  exact keepsDirectory parent (ready.well child parent (by simp [comesFrom _ _ isNode]))

theorem Ready.mkdir {name : String}
    (isParent : fs parent = some .directory) (notIndex : name :: parent ≠ indexPath root)
    (notTemporary : name :: parent ≠ temporaryPath root) :
    Ready root names (Function.update fs (name :: parent) (some .directory)) := by
  have keepsDirectory : ∀ path, fs path = some .directory →
      Function.update fs (name :: parent) (some .directory) path = some .directory := by
    intro path isDirectory
    by_cases same : path = name :: parent
    · rw [same, Function.update_self]
    · rw [Function.update_of_ne same]
      exact isDirectory
  refine ⟨fun child path isThere => ?_, keepsDirectory root ready.top, ?_, ?_,
    fun other isOther path isSuffix content => ?_⟩
  · by_cases same : child :: path = name :: parent
    · rw [(List.cons.inj same).2]
      exact keepsDirectory parent isParent
    · rw [Function.update_of_ne same] at isThere
      exact keepsDirectory path (ready.well child path isThere)
  · rw [Function.update_of_ne notIndex.symm]
    exact ready.index
  · rw [Function.update_of_ne notTemporary.symm]
    exact ready.temporary
  · by_cases same : path = name :: parent
    · rw [same, Function.update_self]
      simp
    · rw [Function.update_of_ne same]
      exact ready.clear other isOther path isSuffix content

/-- The directories that a name lies in, made as far as they are missing. -/
theorem Ready.fill (compatible : Compatible root names)
    {name : ModelName} (isName : names name) (isSuffix : path <:+ directory root name) :
    Ready root names (FileSystem.fill path fs) := by
  refine ⟨ready.well.fill path, ?_, ?_, ?_, fun other isOther further isFurther content => ?_⟩
  · by_cases isTop : root <:+ path
    · exact FileSystem.fill_of_suffix isTop
    · rw [FileSystem.fill_of_not_suffix isTop]
      exact ready.top
  · rw [FileSystem.fill_of_not_suffix fun isIndex =>
      compatible.indexFree name isName (isIndex.trans isSuffix)]
    exact ready.index
  · rw [FileSystem.fill_of_not_suffix fun isTemporary =>
      compatible.temporaryFree name isName (isTemporary.trans isSuffix)]
    exact ready.temporary
  · by_cases isThere : further <:+ path
    · rw [FileSystem.fill_of_suffix isThere]
      simp
    · rw [FileSystem.fill_of_not_suffix isThere]
      exact ready.clear other isOther further isFurther content

end

theorem Lists.of_agree (lists : Lists root names index fs)
    (models : ∀ name, names name → ∀ version : Nat, after (modelPath root name version) = fs
      (modelPath root name version))
    (metas : ∀ name, names name → ∀ version : Nat, after (metaPath root name version) = fs (metaPath
      root name version))
    (directories : ∀ name, names name → ∀ version : Nat, after (versionDirectory root name version)
      = fs (versionDirectory root name version)) : Lists root names index after := by
  refine ⟨lists.sound, fun name isName version isPositive isListed => ?_,
    fun name isName version isLater => ?_⟩
  · unfold Readable
    rw [models name isName version, metas name isName version]
    exact lists.listed name isName version isPositive isListed
  · rw [directories name isName version]
    exact lists.unlisted name isName version isLater

theorem load_congr (same : after (indexPath root) = fs (indexPath root)) :
    (load root).run after = (load root).run fs := by
  unfold load FileProgram.read
  dsimp only
  rw [same]

variable (holds : Holds root names index fs)

include holds

/-- A change of `index.tmp` alone. -/
theorem Holds.temporary (compatible : Compatible root names)
    (content : RegistryFile Data Value) :
    Holds root names index (Function.update fs (temporaryPath root) (some (.file content))) := by
  refine ⟨holds.ready.file holds.ready.temporary holds.ready.top
    compatible.temporaryFree content, ?_, holds.lists.of_agree ?_ ?_ ?_⟩
  · rw [load_congr (Function.update_of_ne temporaryPath_ne_indexPath.symm _ _)]
    exact holds.loads
  · intro name _ version
    apply Function.update_of_ne
    intro same
    exact absurd (List.cons.inj same).1 (by decide)
  · intro name _ version
    apply Function.update_of_ne
    intro same
    exact absurd (List.cons.inj same).1 (by decide)
  · intro name _ version
    apply Function.update_of_ne
    intro same
    exact versionText_ne version (by decide) (List.cons.inj same).1

theorem Holds.fill (compatible : Compatible root names)
    {name : ModelName} (isName : names name) (isSuffix : path <:+ directory root name) :
    Holds root names index (FileSystem.fill path fs) := by
  refine ⟨holds.ready.fill compatible isName isSuffix, ?_, holds.lists.of_agree ?_ ?_ ?_⟩
  · rw [load_congr (FileSystem.fill_of_not_suffix fun isIndex =>
      compatible.indexFree name isName (isIndex.trans isSuffix))]
    exact holds.loads
  · intro other isOther version
    exact FileSystem.fill_of_not_suffix fun isModel =>
      not_suffix_of_version compatible isOther isName _ version (isModel.trans isSuffix)
  · intro other isOther version
    exact FileSystem.fill_of_not_suffix fun isMeta =>
      not_suffix_of_version compatible isOther isName _ version (isMeta.trans isSuffix)
  · intro other isOther version
    exact FileSystem.fill_of_not_suffix fun isVersion =>
      compatible.outside name other isName isOther version (isVersion.trans isSuffix)

theorem Holds.remeasured {name : ModelName} {version : Int}
    {metadata : ModelMetadata Value}
    (isMetadata : fs (metaPath root name version) = some (.file (.metadata metadata)))
    (metrics : List (String × Value)) :
    Holds root names index (Function.update fs (metaPath root name version)
        (some (.file (.metadata { metadata with metrics := metrics })))) := by
  have isThere : fs (metaPath root name version) ≠ none := by simp [isMetadata]
  have isFile : fs (metaPath root name version) ≠ some .directory := by simp [isMetadata]
  have inDirectory : fs (versionDirectory root name version) = some .directory :=
    holds.ready.well "meta.json" _ isThere
  refine ⟨holds.ready.file isFile inDirectory ?_ _, ?_, ⟨holds.lists.sound, ?_, ?_⟩⟩
  · intro other isOther isSuffix
    exact holds.ready.clear other isOther _ isSuffix _ isMetadata
  · have notIndex : indexPath root ≠ metaPath root name version := fun same =>
      absurd (List.cons.inj same).1 (by decide)
    rw [load_congr (Function.update_of_ne notIndex _ _)]
    exact holds.loads
  · intro other isOther further isPositive isListed
    obtain ⟨⟨data, isModel⟩, kept, isKept, sameName, sameVersion⟩ :=
      holds.lists.listed other isOther further isPositive isListed
    refine ⟨⟨data, ?_⟩, ?_⟩
    · rw [Function.update_of_ne (modelPath_ne_metaPath _ _ _ _)]
      exact isModel
    · by_cases same : metaPath root other further = metaPath root name version
      · rw [same, Function.update_self]
        rw [same, isMetadata] at isKept
        have isSame := RegistryFile.metadata.inj (FsNode.file.inj (Option.some.inj isKept))
        rw [← isSame] at sameName sameVersion
        exact ⟨_, rfl, sameName, sameVersion⟩
      · rw [Function.update_of_ne same]
        exact ⟨kept, isKept, sameName, sameVersion⟩
  · intro other isOther further isLater
    rw [Function.update_of_ne]
    · exact holds.lists.unlisted other isOther further isLater
    · intro same
      exact versionText_ne further (by decide) (List.cons.inj same).1

end

end ModelRegistry
end UrbanFlow
