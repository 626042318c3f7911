import UrbanFlow.Rl.RegistryCuts

/-!
# Stages of the registered models

Which version of a name is in production, what a move to a stage makes of it, and the
registry before anything is registered.
-/

namespace UrbanFlow.ModelRegistry

variable {Data Value : Type} {root : FsPath} {names : ModelName → Prop}
  {fs : FileSystem (RegistryFile Data Value)}
  {index : ModelIndex Value}

variable {Item : Type} {version : Int} {stages : List (Int × ModelStage)} {text : String}

def InProduction (root : FsPath) (fs : FileSystem (RegistryFile Data Value)) (text : String)
    (version : Int) : Prop :=
  ∃ index entry, (load root).run fs = ([], .ok index) ∧ index.lookup text = some entry ∧
    (version, ModelStage.production) ∈ entry.stages

theorem eq_of_countP_le_one {kind : Item → Bool} {items : List Item}
    (single : items.countP kind ≤ 1) {first second : Item} (isFirst : first ∈ items)
    (isSecond : second ∈ items) (firstKind : kind first = true) (secondKind : kind second = true) :
    first = second := by
  rw [List.countP_eq_length_filter] at single
  have inFirst : first ∈ items.filter kind := List.mem_filter.mpr ⟨isFirst, firstKind⟩
  have inSecond : second ∈ items.filter kind := List.mem_filter.mpr ⟨isSecond, secondKind⟩
  match isFilter : items.filter kind with
  | [] =>
    rw [isFilter] at inFirst
    exact nomatch inFirst
  | [only] =>
    rw [isFilter, List.mem_singleton] at inFirst inSecond
    rw [inFirst, inSecond]
  | _ :: _ :: _ =>
    rw [isFilter] at single
    simp at single

theorem production_unique {entry : ModelEntry Value} (sound : entry.Sound) {first second : Int}
    (isFirst : (first, ModelStage.production) ∈ entry.stages)
    (isSecond : (second, ModelStage.production) ∈ entry.stages) : first = second :=
  congrArg Prod.fst (eq_of_countP_le_one sound.production isFirst isSecond (by simp) (by simp))

theorem mem_of_mem_setKey {Key : Type} [DecidableEq Key] {key : Key} {value : Item}
    {items : List (Key × Item)} {item : Key × Item} (isItem : item ∈ setKey key value items) :
    item = (key, value) ∨ item ∈ items := by
  induction items with
  | nil => exact .inl (List.mem_singleton.mp isItem)
  | cons first _ ih =>
    unfold setKey at isItem
    split at isItem
    · rcases List.mem_cons.mp isItem with isNew | isOld
      · exact .inl isNew
      · exact .inr (List.mem_cons_of_mem first isOld)
    · rcases List.mem_cons.mp isItem with isFirst | isLater
      · exact .inr (isFirst ▸ List.mem_cons_self)
      · exact (ih isLater).imp_right (List.mem_cons_of_mem first)

/-- After a move to a stage, the version in production is the one that moved there or was
in production before, and it is the former if the stage is production. -/
theorem production_restaged {other : Int} {target : ModelStage}
    (isProduction : (other, ModelStage.production) ∈ restaged version target stages) :
    (target = .production ∧ other = version) ∨
      (target ≠ .production ∧ (other, ModelStage.production) ∈ stages) := by
  dsimp only [restaged] at isProduction
  by_cases isTarget : target = .production
  · rw [if_pos isTarget] at isProduction
    refine .inl ⟨isTarget, ?_⟩
    rcases mem_of_mem_setKey isProduction with isMoved | isDemoted
    · exact congrArg Prod.fst isMoved
    · obtain ⟨item, _, isItem⟩ := List.mem_map.mp isDemoted
      split at isItem
      · exact nomatch congrArg Prod.snd isItem
      · next notProduction => exact absurd (congrArg Prod.snd isItem) notProduction
  · rw [if_neg isTarget] at isProduction
    refine .inr ⟨isTarget, ?_⟩
    rcases mem_of_mem_setKey isProduction with isMoved | isBefore
    · exact absurd (congrArg Prod.snd isMoved).symm isTarget
    · exact isBefore

theorem text_of_ofText? {stage : ModelStage} (isStage : ModelStage.ofText? text = some stage) :
    stage.text = text := by
  unfold ModelStage.ofText? at isStage
  simpa using List.find?_some isStage

theorem latestIn_of_mem {stage : String} {item : Int × ModelStage} (isItem : item ∈ stages)
    (isStage : item.2.text = stage) :
    ∃ held target, latestIn stage stages = some held ∧ (held, target) ∈ stages ∧
      target.text = stage := by
  unfold latestIn
  cases isLatest : ((stages.filter fun item => item.2.text = stage).map Prod.fst).max? with
  | none =>
    rw [List.max?_eq_none_iff, List.map_eq_nil_iff] at isLatest
    have inFilter : item ∈ stages.filter fun item => item.2.text = stage :=
      List.mem_filter.mpr ⟨isItem, by simpa using isStage⟩
    rw [isLatest] at inFilter
    exact nomatch inFilter
  | some held =>
    obtain ⟨latest, isHeld, same⟩ := List.mem_map.mp (List.max?_mem isLatest)
    obtain ⟨inStages, inStage⟩ := List.mem_filter.mp isHeld
    exact ⟨held, latest.2, rfl, same ▸ inStages, by simpa using inStage⟩

theorem text_injective : Function.Injective ModelStage.text := by
  intro first second same
  cases first <;> cases second <;> first | rfl | exact absurd same (by decide)

theorem Holds.inProduction (holds : Holds root names index fs)
    (isProduction : InProduction root fs text version) :
    ∃ entry, index.lookup text = some entry ∧ entry.Sound ∧
      (version, ModelStage.production) ∈ entry.stages := by
  obtain ⟨other, entry, reads, found, isThere⟩ := isProduction
  rw [holds.loads] at reads
  have same : index = other := Except.ok.inj (Prod.mk.inj reads).2
  rw [← same] at found
  exact ⟨entry, found, holds.lists.sound text entry found, isThere⟩

/-- A registry without models: its directory is there and empty. -/
structure Fresh (root : FsPath) (fs : FileSystem (RegistryFile Data Value)) : Prop where
  well : fs.WellFormed
  top : fs root = some .directory
  empty : ∀ path, root <:+ path → path ≠ root → fs path = none

/-- A fresh registry has no models. -/
theorem Fresh.holds (fresh : Fresh root fs) : Holds root names [] fs := by
  have below : ∀ name path, fs (name :: (path ++ root)) = none := fun name path =>
    fresh.empty _ ⟨name :: path, rfl⟩ (by
      intro same
      have sameLength := congrArg List.length same
      rw [List.length_cons, List.length_append] at sameLength
      omega)
  have noIndex : fs (indexPath root) = none := below "index.json" []
  have noTemporary : fs (temporaryPath root) = none := below "index.tmp" []
  refine ⟨⟨fresh.well, fresh.top, by simp [noIndex], by simp [noTemporary], ?_⟩, ?_, ?_⟩
  · intro name _ path isSuffix content isFile
    rcases List.suffix_or_suffix_of_suffix isSuffix
      (List.suffix_append (nameParts name.text).reverse root) with isAbove | isBelow
    · rw [fresh.well.directory_of_suffix fresh.top isAbove] at isFile
      exact nomatch isFile
    · by_cases same : path = root
      · rw [same, fresh.top] at isFile
        exact nomatch isFile
      · rw [fresh.empty path isBelow same] at isFile
        exact nomatch isFile
  · unfold load FileProgram.read
    dsimp only
    rw [noIndex]
  · refine ⟨(fun _ _ impossible => nomatch impossible),
      fun name _ version isPositive isListed => ?_, fun name _ version _ => ?_⟩
    · have isZero : count ([] : ModelIndex Value) name = 0 := rfl
      omega
    · exact below _ (nameParts name.text).reverse

end UrbanFlow.ModelRegistry
