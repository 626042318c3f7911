import UrbanFlow.Metering.Builder
import UrbanFlow.Metering.Validator

/-!
# What the validator accepts, the builder builds

The validator and the builder read the same untyped section with their own
defaults and aliases. Field by field: what an accepted field is, and what the
builder reads of it. They differ in a null `yellow` or `offset`, a null `allRed`
beside `all_red`, and in which of two sections they read.
-/

namespace UrbanFlow

open MeteringValidator MeteringBuilder MeteredPhaseSpec

variable {label : PyMessage} {path range owner key : String} {inRange : ℚ → Bool} {value : PyValue}
  {fields : Fields} {x : ℚ}

/-! ## One accepted field -/

theorem rangeIssues_eq_nil {kind : String} : rangeIssues label path kind range inRange value = [] ↔
      ∃ x, value.number = some x ∧ inRange x = true := by
  unfold rangeIssues
  cases value.number with
  | none | some x => simp

theorem optionalIssues_eq_nil : optionalIssues label path range inRange value = [] ↔
      value = .none ∨ ∃ x, value.number = some x ∧ inRange x = true := by
  unfold optionalIssues
  by_cases absent : value.isNone = true
  · simp [PyValue.isNone_iff.mp absent]
  · rw [if_neg absent, rangeIssues_eq_nil]
    simp [← PyValue.isNone_iff, absent]

theorem wholeIssues_eq_nil {most : Int} (accepted : wholeIssues fields owner key most = [])
    (present : fields.lookup key = some value) :
    ∃ x, value.number = some x ∧ x.den = 1 ∧ 1 ≤ x.num ∧ x.num ≤ most := by
  unfold wholeIssues at accepted
  rw [present] at accepted
  dsimp only at accepted
  cases number : value.number with
  | none => simp [number] at accepted
  | some x =>
    by_cases whole : x.den = 1
    · by_cases bounds : 1 ≤ x.num ∧ x.num ≤ most
      · exact ⟨x, rfl, whole, bounds⟩
      · simp [number, whole, bounds] at accepted
    · simp [number, whole] at accepted

theorem enabledIssues_eq_nil (accepted : enabledIssues fields owner = [])
    (present : fields.lookup "enabled" = some value) : ∃ flag, value = .bool flag := by
  unfold enabledIssues at accepted
  rw [present] at accepted
  cases value <;> simp_all

theorem sectionIssues_eq_nil {cfg : Fields} {issues : Fields → Issues} (empty : issues [] = [])
    (accepted : sectionIssues cfg key issues = []) :
    ∃ fields, planSection cfg key = .ok fields ∧ issues fields = [] := by
  unfold sectionIssues at accepted
  unfold planSection
  cases value : cfg.get key with
  | none => exact ⟨[], rfl, empty⟩
  | dict fields =>
    rw [value] at accepted
    exact ⟨fields, rfl, accepted⟩
  | _ => simp [value] at accepted

/-! ## Reading an accepted field -/

theorem planInteger_ok {raw : PyValue} {name : String} (number : raw.number = some x)
    (whole : x.den = 1) : planInteger raw name = .ok x.num := by
  unfold planInteger
  rw [bind_ok_iff]
  exact ⟨x, planNumber_ok_iff.mpr number, if_pos whole⟩

theorem lookup_default {cfg : Fields} (notNull : cfg.lookup key ≠ some .none) (fallback : ℚ)
    (numeric : cfg.get key = .none ∨ ∃ x, (cfg.get key).number = some x) :
    ((cfg.lookup key).getD (.float fallback)).number =
      some ((cfg.get key).number.getD fallback) := by
  unfold Fields.get at numeric ⊢
  cases value : cfg.lookup key with
  | none => simp [PyValue.number]
  | some =>
    rw [value] at numeric notNull
    rcases numeric with null | ⟨x, number⟩
    · exact absurd (congrArg some null) notNull
    · rw [Option.getD_some] at number
      simp [number]

/-! ## One accepted phase -/

theorem entryIssues_eq_nil {present : Option (List Direction)} {index position : Nat}
    {seen : List Direction} {entries : List PyValue}
    (accepted : entryIssues present index position seen entries = []) :
    ∃ directions, planEntries index seen entries = .ok directions ∧
      directions.length = entries.length := by
  induction entries generalizing position seen with
  | nil => exact ⟨[], rfl, rfl⟩
  | cons entry _ ih =>
    unfold entryIssues at accepted
    unfold planEntries parseDirection
    cases parsed : entry.asDirection with
    | none => simp [parsed] at accepted
    | some direction =>
      simp only [parsed, List.append_eq_nil_iff] at accepted
      obtain ⟨⟨_, once⟩, rest⟩ := accepted
      have fresh : direction ∉ seen := by
        intro again
        rw [if_pos again] at once
        exact List.cons_ne_nil _ _ once
      obtain ⟨others, read, length⟩ := ih rest
      refine ⟨direction :: others, ?_, by simp [length]⟩
      simp [bind, Except.bind, fresh, read]

theorem planBound_of_optional {phase : Fields} {index : Nat} {other : String} {fallback : ℚ}
    (accepted : phase.getAlias key other = .none ∨ ∃ x, (phase.getAlias key other).number = some x)
    : planBound phase index key other fallback =
      .ok ((phase.getAlias key other).number.getD fallback) := by
  unfold planBound
  rcases accepted with null | ⟨x, number⟩
  · simp [null]
  · have notNull : (phase.getAlias key other).isNone ≠ true := by
      intro null
      rw [PyValue.isNone_iff.mp null] at number
      exact nomatch number
    rw [if_neg notNull, planNumber_ok_iff.mpr number, number, Option.getD_some]

theorem crossIssues_eq_nil {code field relation : String} {index : Nat} {holds : ℚ → ℚ → Bool}
    {first second : Option ℚ}
    (accepted : crossIssues code index field relation holds first second = []) {y : ℚ}
    (isFirst : first = some x) (isSecond : second = some y) : holds x y = true := by
  unfold crossIssues at accepted
  rw [isFirst, isSecond] at accepted
  by_contra fails
  simp [fails] at accepted

structure MeteredPhaseSpec.Documented (spec : MeteredPhaseSpec) : Prop where
  green : 5 < spec.green ∧ spec.green ≤ 120
  minGreen : 5 ≤ spec.minGreen ∧ spec.minGreen ≤ 60
  maxGreen : 10 ≤ spec.maxGreen ∧ spec.maxGreen ≤ 180

/-- The green a phase configures, when it is a positive number. -/
def configuredGreen (phase : PyValue) : Option ℚ :=
  phase.asDict.bind fun fields => (fields.get "green").number.filter (0 < ·)

theorem greenIssues_eq_nil {index : Nat} {phase : Fields}
    (accepted : greenIssues index phase = []) :
    ∃ x, (phase.get "green").number = some x ∧ 5 < x ∧ x ≤ 120 := by
  dsimp only [greenIssues] at accepted
  split at accepted
  · exact absurd accepted (List.cons_ne_nil _ _)
  · split at accepted
    · obtain ⟨x, number, range⟩ := rangeIssues_eq_nil.mp accepted
      exact ⟨x, number, of_decide_eq_true range⟩
    · split at accepted
      · exact absurd accepted (List.cons_ne_nil _ _)
      · obtain ⟨x, number, range⟩ := rangeIssues_eq_nil.mp accepted
        exact ⟨x, number, of_decide_eq_true range⟩

theorem entriesIssues_eq_nil {present : Option (List Direction)} {index : Nat} {phase : Fields}
    (accepted : entriesIssues present index phase = []) :
    ∃ entry entries directions, (phase.get "entries").asSequence = some (entry :: entries) ∧
      planEntries index [] (entry :: entries) = .ok directions ∧
      directions ≠ [] := by
  unfold entriesIssues at accepted
  split at accepted
  · next entry entries sequence =>
      obtain ⟨directions, read, length⟩ := entryIssues_eq_nil accepted
      refine ⟨entry, entries, directions, sequence, read, ?_⟩
      apply List.ne_nil_of_length_pos
      simp [length]
  · exact absurd accepted (List.cons_ne_nil _ _)

section

variable {index : Nat} {phase : Fields} {green : ℚ}
  (isGreen : (phase.get "green").number = some green) (long : 5 < green)

include isGreen long

theorem minGreen_bounds (accepted : minGreenIssues index phase = [])
    (ordered : greenOrderIssues index phase = []) :
    planBound phase index "minGreen" "min_green" (min green 8) =
        .ok ((phase.getAlias "minGreen" "min_green").number.getD (min green 8)) ∧
      5 ≤ (phase.getAlias "minGreen" "min_green").number.getD (min green 8) ∧
      (phase.getAlias "minGreen" "min_green").number.getD (min green 8) ≤ 60 ∧
      (phase.getAlias "minGreen" "min_green").number.getD (min green 8) ≤
        green := by
  have range := optionalIssues_eq_nil.mp accepted
  refine ⟨planBound_of_optional (range.imp_right fun ⟨x, number, _⟩ => ⟨x, number⟩), ?_⟩
  rcases range with null | ⟨x, number, inRange⟩
  · have low := min_le_left green 8
    have atMost := min_le_right green 8
    have atLeast : 5 ≤ min green 8 := le_min long.le (by norm_num)
    rw [null, PyValue.number_none, Option.getD_none]
    exact ⟨atLeast, atMost.trans (by norm_num), low⟩
  · have bounds := of_decide_eq_true inRange
    simp only [greenOrderIssues, List.append_eq_nil_iff] at ordered
    have below := crossIssues_eq_nil ordered.1.2 (x := green) (by
      rw [isGreen, Option.filter_some, if_pos (decide_eq_true (by linarith))])
      number
    rw [number, Option.getD_some]
    exact ⟨bounds.1, bounds.2, of_decide_eq_true below⟩

theorem maxGreen_bounds (short : green ≤ 120) (accepted : maxGreenIssues index phase = [])
    (ordered : greenOrderIssues index phase = []) :
    planBound phase index "maxGreen" "max_green" (max green 40) =
        .ok ((phase.getAlias "maxGreen" "max_green").number.getD (max green 40)) ∧
      10 ≤ (phase.getAlias "maxGreen" "max_green").number.getD (max green 40) ∧
      (phase.getAlias "maxGreen" "max_green").number.getD (max green 40) ≤ 180 ∧
      green ≤ (phase.getAlias "maxGreen" "max_green").number.getD (max green 40) := by
  have range := optionalIssues_eq_nil.mp accepted
  refine ⟨planBound_of_optional (range.imp_right fun ⟨x, number, _⟩ => ⟨x, number⟩), ?_⟩
  rcases range with null | ⟨x, number, inRange⟩
  · have high := le_max_left green 40
    have atLeast := le_max_right green 40
    have atMost : max green 40 ≤ 120 := max_le short (by norm_num)
    rw [null, PyValue.number_none, Option.getD_none]
    exact ⟨le_trans (by norm_num) atLeast, atMost.trans (by norm_num), high⟩
  · have bounds := of_decide_eq_true inRange
    simp only [greenOrderIssues, List.append_eq_nil_iff] at ordered
    have above := crossIssues_eq_nil ordered.2 (x := green) (by
      rw [isGreen, Option.filter_some, if_pos (decide_eq_true (by linarith))])
      number
    rw [number, Option.getD_some]
    exact ⟨bounds.1, bounds.2, of_decide_eq_true above⟩

end

/-- Durations in order make a specification. -/
theorem MeteredPhaseSpec.make_ok {entries : List Direction} {green minGreen maxGreen : ℚ}
    (present : entries ≠ []) (positive : 0 < minGreen) (low : minGreen ≤ green)
    (high : green ≤ maxGreen) : ∃ spec, make entries green minGreen maxGreen = .ok spec ∧
      spec.green = green ∧ spec.minGreen = minGreen ∧ spec.maxGreen = maxGreen := by
  have greenPositive := positive.trans_le low
  refine ⟨⟨entries, green, minGreen, maxGreen, present, positive, low, high⟩, ?_, rfl, rfl, rfl⟩
  unfold make
  rw [dif_neg present, if_neg (not_le.mpr greenPositive), dif_neg (not_le.mpr positive),
    if_neg (not_le.mpr (greenPositive.trans_le high)),
    if_neg (not_lt.mpr (low.trans high)), dif_neg (not_lt.mpr low),
    dif_neg (not_lt.mpr high)]

section

variable {present : Option (List Direction)} {index : Nat}

theorem phaseIssues_eq_nil {phase : PyValue} (accepted : phaseIssues present index phase = []) :
    ∃ spec, planSpec index phase = .ok spec ∧ spec.Documented ∧
      configuredGreen phase = some spec.green := by
  cases isDict : phase with
  | dict fields =>
    rw [isDict] at accepted
    simp only [phaseIssues, List.append_eq_nil_iff] at accepted
    obtain ⟨⟨⟨⟨⟨_, entries⟩, green⟩, minimum⟩, maximum⟩, ordered⟩ := accepted
    obtain ⟨_, _, directions, sequence, read, present⟩ := entriesIssues_eq_nil entries
    obtain ⟨x, isGreen, long, short⟩ := greenIssues_eq_nil green
    obtain ⟨readMin, minLow, minHigh, minGreen⟩ := minGreen_bounds isGreen long minimum ordered
    obtain ⟨readMax, maxLow, maxHigh, maxGreen⟩ :=
      maxGreen_bounds isGreen long short maximum ordered
    have positive : (0 : ℚ) < x := by linarith
    have lookup : ((fields.lookup "green").getD (.int 0)).number = some x := by
      unfold Fields.get at isGreen
      cases value : fields.lookup "green" with
      | none => simp [value] at isGreen
      | some => rwa [value] at isGreen
    obtain ⟨spec, made, sameGreen, sameMin, sameMax⟩ :=
      make_ok present (by linarith) minGreen maxGreen
    rw [← sameGreen] at long short
    rw [← sameMin] at minLow minHigh
    rw [← sameMax] at maxLow maxHigh
    refine ⟨spec, ?_, ⟨⟨long, short⟩, ⟨minLow, minHigh⟩, ⟨maxLow, maxHigh⟩⟩, ?_⟩
    · change planPhaseSpec index fields = .ok spec
      unfold planPhaseSpec
      rw [sequence]
      dsimp only
      rw [bind_ok_iff]
      refine ⟨directions, read, ?_⟩
      rw [bind_ok_iff]
      refine ⟨x, planNumber_ok_iff.mpr lookup, ?_⟩
      rw [if_neg (not_le.mpr positive), bind_ok_iff]
      refine ⟨_, readMin, ?_⟩
      rw [bind_ok_iff]
      exact ⟨_, readMax, made⟩
    · simp [configuredGreen, isGreen, positive, sameGreen]
  | _ => simp [isDict, phaseIssues] at accepted

theorem phaseListIssues_eq_nil {phases : List PyValue}
    (accepted : phaseListIssues present index phases = []) :
    ∃ specs, planSpecs index phases = .ok specs ∧ (∀ spec ∈ specs, spec.Documented) ∧
      phases.mapM configuredGreen = some (specs.map green) ∧
      specs.length = phases.length := by
  induction phases generalizing index with
  | nil => exact ⟨[], rfl, by simp, by simp, rfl⟩
  | cons _ _ ih =>
    simp only [phaseListIssues, List.append_eq_nil_iff] at accepted
    obtain ⟨spec, read, documented, green⟩ := phaseIssues_eq_nil accepted.1
    obtain ⟨specs, readAll, allDocumented, greens, length⟩ := ih accepted.2
    refine ⟨spec :: specs, ?_, ?_, ?_, by simp [length]⟩
    · unfold planSpecs
      rw [bind_ok_iff]
      refine ⟨spec, read, ?_⟩
      rw [bind_ok_iff]
      exact ⟨specs, readAll, rfl⟩
    · intro other member
      rcases List.mem_cons.mp member with rfl | later
      · exact documented
      · exact allDocumented other later
    · simp [green, greens]

end

/-! ## One accepted section -/

theorem phasesIssues_eq_nil {config cfg : Fields} {arms : Option (List Direction)}
    (accepted : phasesIssues config arms cfg = []) :
    ∃ phases specs, planPhases cfg = .ok phases ∧ planSpecs 0 phases = .ok specs ∧ specs ≠ [] ∧
      (∀ spec ∈ specs, spec.Documented) ∧
      positiveGreens cfg = some (specs.map green) := by
  unfold phasesIssues at accepted
  split at accepted
  · next phase phases isList =>
      rw [List.append_eq_nil_iff] at accepted
      obtain ⟨specs, read, documented, greens, length⟩ := phaseListIssues_eq_nil accepted.2
      refine ⟨phase :: phases, specs, ?_, read, ?_, documented, ?_⟩
      · unfold planPhases
        rw [isList]
      · apply List.ne_nil_of_length_pos
        simp [length]
      · unfold positiveGreens
        rw [isList]
        exact greens
  · exact absurd accepted (List.cons_ne_nil _ _)

section

variable {cfg : Fields}

theorem planYellow_ok_iff (accepted : yellowIssues cfg = []) {yellow : ℚ} :
    planYellow cfg = .ok yellow ↔ cfg.lookup "yellow" ≠ some .none ∧
        yellow = (cfg.get "yellow").number.getD 3 := by
  have range := optionalIssues_eq_nil.mp accepted
  unfold planYellow
  rw [planDuration_ok_iff]
  by_cases null : cfg.lookup "yellow" = some .none
  · simp [null]
  · have read := lookup_default null 3 (range.imp_right fun ⟨x, number, _⟩ =>
      ⟨x, number⟩)
    rw [read, Option.some.injEq]
    constructor
    · rintro ⟨rfl, _⟩
      exact ⟨null, rfl⟩
    · rintro ⟨_, rfl⟩
      refine ⟨rfl, ?_⟩
      rcases range with absent | ⟨x, number, inRange⟩
      · simp [absent]
      · have bounds := of_decide_eq_true inRange
        rw [number, Option.getD_some]
        linarith [bounds.1]

theorem yellow_bounds (accepted : yellowIssues cfg = []) :
    2 < (cfg.get "yellow").number.getD 3 ∧ (cfg.get "yellow").number.getD 3 ≤ 8 := by
  rcases optionalIssues_eq_nil.mp accepted with absent | ⟨x, number, inRange⟩
  · rw [absent]
    norm_num
  · rw [number]
    exact of_decide_eq_true inRange

theorem planOffset_ok_iff (accepted : offsetIssues cfg = []) {offset : ℚ} :
    planOffset cfg = .ok offset ↔ cfg.lookup "offset" ≠ some .none ∧
        offset = (cfg.get "offset").number.getD 0 := by
  have range : cfg.get "offset" = .none ∨ ∃ x, (cfg.get "offset").number = some x ∧ 0 ≤ x := by
    dsimp only [offsetIssues] at accepted
    split at accepted
    · next null => exact .inl (PyValue.isNone_iff.mp null)
    · split at accepted
      · exact absurd accepted (List.cons_ne_nil _ _)
      · next x number =>
          split at accepted
          · exact absurd accepted (List.cons_ne_nil _ _)
          · next nonnegative => exact .inr ⟨x, number, not_lt.mp nonnegative⟩
  unfold planOffset
  rw [planDuration_ok_iff]
  by_cases null : cfg.lookup "offset" = some .none
  · simp [null]
  · have read := lookup_default null 0 (range.imp_right fun ⟨x, number, _⟩ =>
      ⟨x, number⟩)
    rw [read, Option.some.injEq]
    constructor
    · rintro ⟨rfl, _⟩
      exact ⟨null, rfl⟩
    · rintro ⟨_, rfl⟩
      refine ⟨rfl, ?_⟩
      rcases range with absent | ⟨x, number, nonnegative⟩
      · simp [absent]
      · rwa [number, Option.getD_some]

theorem offset_lt_cycle (accepted : offsetIssues cfg = []) {greens : List ℚ}
    (isGreens : positiveGreens cfg = some greens)
    (positive : 0 < cycleLength ((cfg.get "yellow").number.getD 3) ((cfg.getAlias "allRed" "all_red").number.getD 2) greens) :
    (cfg.get "offset").number.getD 0 < cycleLength ((cfg.get "yellow").number.getD 3)
        ((cfg.getAlias "allRed" "all_red").number.getD 2) greens := by
  dsimp only [offsetIssues] at accepted
  split at accepted
  · next null =>
      rw [PyValue.isNone_iff.mp null]
      exact positive
  · split at accepted
    · exact absurd accepted (List.cons_ne_nil _ _)
    · next x number =>
        split at accepted
        · exact absurd accepted (List.cons_ne_nil _ _)
        · rw [isGreens] at accepted
          dsimp only at accepted
          split at accepted
          · exact absurd accepted (List.cons_ne_nil _ _)
          · next inside =>
              rw [number, Option.getD_some]
              exact not_le.mp fun beyond => inside ⟨positive, beyond⟩

theorem planFlag_ok {fields : Fields} {owner name : String}
    (accepted : enabledIssues fields owner = []) :
    ∃ flag, planFlag ((fields.lookup "enabled").getD (.bool false)) name = .ok flag := by
  cases value : fields.lookup "enabled" with
  | none => exact ⟨false, rfl⟩
  | some =>
    obtain ⟨flag, rfl⟩ := enabledIssues_eq_nil accepted value
    exact ⟨flag, rfl⟩

theorem planInteger_of_whole {fields : Fields} {owner key name : String} {most : Int}
    (fallback : Int) (accepted : wholeIssues fields owner key most = [])
    (bounds : 1 ≤ fallback ∧ fallback ≤ most) :
    ∃ n, planInteger ((fields.lookup key).getD (.int fallback)) name = .ok n ∧
      1 ≤ n ∧ n ≤ most := by
  cases value : fields.lookup key with
  | none =>
    have whole : (fallback : ℚ).den = 1 := Rat.den_intCast fallback
    exact ⟨(fallback : ℚ).num, planInteger_ok rfl whole, by simpa using bounds⟩
  | some =>
    obtain ⟨x, number, whole, low, high⟩ := wholeIssues_eq_nil accepted value
    exact ⟨x.num, planInteger_ok number whole, low, high⟩

theorem planSpillbackGuard_ok
    (accepted : sectionIssues cfg "spillbackGuard" spillbackGuardIssues = []) :
    ∃ guard, planSpillbackGuard cfg = .ok guard := by
  obtain ⟨fields, read, issues⟩ := sectionIssues_eq_nil (by decide) accepted
  simp only [spillbackGuardIssues, List.append_eq_nil_iff] at issues
  obtain ⟨⟨⟨_, flag⟩, whole⟩, hold⟩ := issues
  obtain ⟨enabled, readFlag⟩ := planFlag_ok flag
  obtain ⟨stopped, readStopped, bounds⟩ := planInteger_of_whole 2 whole (by decide)
  obtain ⟨x, readHold, holdBounds⟩ : ∃ x : ℚ,
      ((fields.lookup "maxHold").getD (.float 10)).number = some x ∧ 0 ≤ x ∧ x ≤ 60 := by
    unfold maxHoldIssues at hold
    cases value : fields.lookup "maxHold" with
    | none => exact ⟨10, rfl, by norm_num, by norm_num⟩
    | some =>
      rw [value] at hold
      obtain ⟨x, number, inRange⟩ := rangeIssues_eq_nil.mp hold
      exact ⟨x, number, of_decide_eq_true inRange⟩
  simp only [planSpillbackGuard, bind_ok_iff, planNumber_ok_iff]
  refine ⟨⟨enabled, stopped, x, bounds, holdBounds⟩, fields, read, enabled,
    readFlag, stopped, readStopped, x, readHold, ?_⟩
  unfold SpillbackGuardConfig.make
  rw [dif_pos bounds, dif_pos holdBounds]

theorem planQueueCap_ok (accepted : sectionIssues cfg "queueCap" queueCapIssues = []) :
    ∃ cap, planQueueCap cfg = .ok cap := by
  obtain ⟨fields, read, issues⟩ := sectionIssues_eq_nil (by decide) accepted
  simp only [queueCapIssues, List.append_eq_nil_iff] at issues
  obtain ⟨⟨_, flag⟩, whole⟩ := issues
  obtain ⟨enabled, readFlag⟩ := planFlag_ok flag
  obtain ⟨vehicles, readVehicles, bounds⟩ := planInteger_of_whole 8 whole (by decide)
  simp only [planQueueCap, bind_ok_iff]
  refine ⟨⟨enabled, vehicles, bounds⟩, fields, read, enabled, readFlag, vehicles, readVehicles, ?_⟩
  unfold QueueCapConfig.make
  rw [dif_pos bounds]

end

/-! ## The plan built -/

structure EntryMeteringPlan.Documented (plan : EntryMeteringPlan) : Prop where
  yellow : 2 < plan.yellow ∧ plan.yellow ≤ 8
  allRed : 0 ≤ plan.allRed ∧ plan.allRed ≤ 5
  specs : ∀ spec ∈ plan.specs, spec.Documented
  spillbackGuard : 1 ≤ plan.spillbackGuard.stoppedThreshold ∧
    plan.spillbackGuard.stoppedThreshold ≤ 20 ∧
    0 ≤ plan.spillbackGuard.maxHold ∧ plan.spillbackGuard.maxHold ≤ 60
  queueCap : 1 ≤ plan.queueCap.vehicles ∧ plan.queueCap.vehicles ≤ 50
  positive : ∀ phase ∈ plan.phases, 0 < phase.duration
  cycle : plan.cycleDuration = (plan.phases.map Phase.duration).sum
  offset : 0 ≤ plan.offset ∧ plan.offset < plan.cycleDuration

section

variable {yellow allRed : ℚ} (yellowNonneg : 0 ≤ yellow) (allRedNonneg : 0 ≤ allRed)

include yellowNonneg allRedNonneg

/-- A specification's phases last as long as its green and both clearances. -/
theorem specPhases_duration (spec : MeteredPhaseSpec) :
    ((specPhases yellow allRed spec).map Phase.duration).sum = spec.green + yellow + allRed := by
  unfold specPhases
  rcases yellowNonneg.eq_or_lt with rfl | yellowPos
  · rcases allRedNonneg.eq_or_lt with rfl | allRedPos
    · simp
    · simp [allRedPos]
  · rcases allRedNonneg.eq_or_lt with rfl | allRedPos
    · simp [yellowPos]
    · simp [yellowPos, allRedPos, add_assoc]

theorem assemble_cycle (specs : List MeteredPhaseSpec) :
    ((specs.flatMap (specPhases yellow allRed)).map Phase.duration).sum =
      cycleLength yellow allRed (specs.map green) := by
  unfold cycleLength
  induction specs with
  | nil => rfl
  | cons _ _ ih =>
    rw [List.flatMap_cons, List.map_append, List.sum_append,
      specPhases_duration yellowNonneg allRedNonneg, ih]
    simp

end

/-! ## Where the readers agree -/

def checkedSection (config : Fields) : Fields := (resolve config).2.asDict.getD []

/-- The builder does what the validator promises: it succeeds on the section the
validator checked, within the documented bounds. -/
def BuildsAsValidated (config : Fields) : Prop :=
  ∃ plan, buildMeteringPlan config = .ok plan ∧ plan.Documented ∧
    meteringSection config = checkedSection config

/-- Where both readers read the same: one section, no null `yellow` or `offset`,
and no null `allRed` beside an `all_red` out of bounds. -/
structure ReadersAgree (config : Fields) : Prop where
  oneSection : ∀ top, config.get "entryMetering" = .dict top → top = checkedSection config
  yellow : (checkedSection config).lookup "yellow" ≠ some .none
  offset : (checkedSection config).lookup "offset" ≠ some .none
  allRed : ((checkedSection config).get "allRed").isNone = true →
    (checkedSection config).lookup "all_red" ≠ some .none
  aliased : (checkedSection config).lookup "allRed" = some .none → ∀ value,
    (checkedSection config).lookup "all_red" = some value →
      ∃ x, value.number = some x ∧ 0 ≤ x ∧ x ≤ 5 ∧
        ∀ greens, positiveGreens (checkedSection config) = some greens →
          ((checkedSection config).get "offset").number.getD 0 <
            cycleLength (((checkedSection config).get "yellow").number.getD 3) x greens

theorem accepted_section {config ctrl : Fields} {arms : Option (List Direction)}
    (isController : config.get "controller" = .dict ctrl)
    (metered : ctrl.get "entryControl" = .str "metered_entry")
    (accepted : validateEntryMetering (.dict config) arms = []) :
    (resolve config).2 = .dict (checkedSection config) ∧
      meteringIssues config arms (checkedSection config) = [] := by
  have control : (resolve config).1 = .str "metered_entry" := by
    unfold Fields.get at metered
    unfold resolve
    rw [isController, PyValue.asDict_dict, Option.getD_some]
    cases value : ctrl.lookup "entryControl" with
    | none => simp [value] at metered
    | some entryControl =>
      obtain rfl : entryControl = .str "metered_entry" := by simpa [value] using metered
      dsimp only
      rw [value, Option.getD_some]
      cases ctrl.lookup "entryMetering" with
      | some => rfl
      | none =>
        cases config.lookup "entryMetering" with
        | some => rfl
        | none =>
          dsimp only
          split <;> rfl
  dsimp only [validateEntryMetering] at accepted
  rw [control] at accepted
  simp only [List.append_eq_nil_iff] at accepted
  have issues := accepted.2
  unfold checkedSection
  cases value : (resolve config).2 with
  | dict =>
    rw [value] at issues
    exact ⟨rfl, issues⟩
  | _ => simp [value, sectionValueIssues] at issues

theorem meteringSection_eq {config ctrl : Fields}
    (isController : config.get "controller" = .dict ctrl)
    (isDict : (resolve config).2 = .dict (checkedSection config))
    (oneSection : ∀ top, config.get "entryMetering" = .dict top → top = checkedSection config) :
    meteringSection config = checkedSection config := by
  unfold meteringSection
  cases top : (config.get "entryMetering").asDict with
  | some cfg => exact oneSection cfg (PyValue.asDict_eq_some.mp top)
  | none =>
    rw [isController]
    unfold resolve at isDict
    rw [isController, PyValue.asDict_dict, Option.getD_some] at isDict
    dsimp only at isDict
    rw [PyValue.asDict_dict, Option.bind_some]
    unfold Fields.get at top ⊢
    cases own : ctrl.lookup "entryMetering" with
    | some =>
      rw [own] at isDict
      dsimp only at isDict
      rw [Option.getD_some, isDict]
      rfl
    | none =>
      rw [own] at isDict
      cases shared : config.lookup "entryMetering" with
      | some =>
        rw [shared] at isDict top
        dsimp only at isDict
        rw [Option.getD_some, isDict] at top
        exact nomatch top
      | none =>
        rw [shared] at isDict
        dsimp only at isDict
        split at isDict
        · exact PyValue.dict.inj isDict
        · exact nomatch isDict

section

variable {cfg : Fields} (accepted : allRedIssues cfg = [])

include accepted

theorem allRed_bounds : 0 ≤ (cfg.getAlias "allRed" "all_red").number.getD 2 ∧
      (cfg.getAlias "allRed" "all_red").number.getD 2 ≤ 5 := by
  rcases optionalIssues_eq_nil.mp accepted with absent | ⟨x, number, inRange⟩
  · rw [absent]
    norm_num
  · rw [number]
    exact of_decide_eq_true inRange

/-- An all-red that no null hides is the one the validator checks. -/
theorem planAllRed_of_shown
    (notNull : (cfg.get "allRed").isNone = true → cfg.lookup "all_red" ≠ some .none)
    (shown : cfg.lookup "allRed" = some .none → cfg.lookup "all_red" = none) :
    planAllRed cfg = .ok ((cfg.getAlias "allRed" "all_red").number.getD 2) := by
  have range := optionalIssues_eq_nil.mp accepted
  have numeric {value : PyValue} (isValue : cfg.getAlias "allRed" "all_red" = value)
      (present : value ≠ .none) :
      value.number = some ((cfg.getAlias "allRed" "all_red").number.getD 2) := by
    rcases range with absent | ⟨x, number, _⟩
    · exact absurd (isValue.symm.trans absent) present
    · rw [← isValue, number, Option.getD_some]
  dsimp only [planAllRed]
  rw [planDuration_ok_iff]
  refine ⟨?_, (allRed_bounds accepted).1⟩
  unfold Fields.getAlias Fields.get at *
  cases own : cfg.lookup "allRed" with
  | none =>
    rw [own] at numeric notNull
    cases other : cfg.lookup "all_red" with
    | none => simp [PyValue.number]
    | some value =>
      rw [other] at numeric notNull
      have present : value ≠ .none := fun null => notNull rfl (congrArg some null)
      exact numeric rfl present
  | some value =>
    rw [own] at numeric shown
    by_cases null : value = .none
    · rw [shown (congrArg some null), null]
      simp [PyValue.number]
    · have present : value.isNone ≠ true := fun isNone =>
        null (PyValue.isNone_iff.mp isNone)
      rw [Option.getD_some, if_neg present]
      exact numeric rfl null

end

theorem ReadersAgree.readsAllRed {config : Fields} (agree : ReadersAgree config)
    (allRedOk : allRedIssues (checkedSection config) = [])
    (offsetOk : offsetIssues (checkedSection config) = []) {greens : List ℚ}
    (isGreens : positiveGreens (checkedSection config) = some greens)
    (positive : ∀ allRed, 0 ≤ allRed →
      0 < cycleLength (((checkedSection config).get "yellow").number.getD 3) allRed greens) :
    ∃ allRed, planAllRed (checkedSection config) = .ok allRed ∧ 0 ≤ allRed ∧ allRed ≤ 5 ∧
      ((checkedSection config).get "offset").number.getD 0 <
        cycleLength (((checkedSection config).get "yellow").number.getD 3) allRed greens := by
  have bounds := allRed_bounds allRedOk
  have within := offset_lt_cycle offsetOk isGreens (positive _ bounds.1)
  by_cases hidden : (checkedSection config).lookup "allRed" = some .none
  · cases value : (checkedSection config).lookup "all_red" with
    | none =>
      exact ⟨_, planAllRed_of_shown allRedOk agree.allRed fun _ => value,
        bounds.1, bounds.2, within⟩
    | some other =>
      obtain ⟨x, number, low, high, offset⟩ := agree.aliased hidden other value
      refine ⟨x, ?_, low, high, offset greens isGreens⟩
      unfold planAllRed Fields.get
      dsimp only
      rw [planDuration_ok_iff, hidden, value, Option.getD_some, Option.getD_some]
      exact ⟨number, low⟩
  · exact ⟨_, planAllRed_of_shown allRedOk agree.allRed fun null =>
      absurd null hidden, bounds.1, bounds.2, within⟩

def twoPhaseSection (fields : Fields) : Fields :=
  ("phases", .list [.dict [("entries", .list [.str "north", .str "south"]), ("green", .int 20)],
     .dict [("entries", .list [.str "east", .str "west"]), ("green", .int 20),
       ("min_green", .int 10)]]) :: fields

def meteredController (fields : Fields) : Fields :=
  [("entryControl", .str "metered_entry"), ("entryMetering", .dict (twoPhaseSection fields))]

end UrbanFlow
