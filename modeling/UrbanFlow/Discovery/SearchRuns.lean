import UrbanFlow.Discovery.Search

/-!
# What a search spends and sees

Whatever the evaluator, the validator and the stop requests do, a search keeps to
the runs it planned, tunes no genome twice, and reads no held-out seed before its
tuning and its selection are over.
-/

namespace UrbanFlow.Discovery
namespace Search

open Nsga2 Effect

variable (search : Search)

/-! ## The calls of the evaluator -/

/-- The keys of what has been evaluated on the tuning seeds. -/
def tunedKeys (calls : List EvaluatorCall) : List String :=
  (calls.filter (·.phase = .tuning)).flatMap fun call => call.candidates.map search.key

/-- The simulation runs of some calls. -/
def spent (calls : List EvaluatorCall) : Nat := (calls.map EvaluatorCall.runs).sum

/-- A call for tuning or selection, with the seeds of its phase. -/
def Early (call : EvaluatorCall) : Prop :=
  (call.phase = .tuning ∧ call.seeds = search.pools.tuning) ∨
    (call.phase = .selection ∧ call.seeds = search.pools.selection)

/-- A call after the search, with held-out seeds. -/
def Late (call : EvaluatorCall) : Prop :=
  (call.phase = .heldOut ∨ call.phase = .unseen) ∧ ∀ seed ∈ call.seeds, seed ∈ search.pools.heldOut

/-- The calls made within a limit: no genome is tuned twice, and the early calls
come before the late ones. -/
structure Orderly (limit runsUsed : Nat) (exhausted : Bool)
    (calls : List EvaluatorCall) : Prop where
  used : runsUsed ≤ limit
  within : spent calls ≤ limit
  enough : exhausted = false
  once : (search.tunedKeys calls).Nodup
  order : ∃ early late, calls = early ++ late ∧
    (∀ call ∈ early, search.Early call) ∧ ∀ call ∈ late, search.Late call

section

variable (limit : Nat) (run : SearchRun)

/-- A run that is orderly within a limit. -/
def OrderlyRun : Prop := search.Orderly limit run.runsUsed run.budgetExhausted run.calls

/-- So far a search has made early calls only. -/
def EarlyRun : Prop := search.OrderlyRun limit run ∧ ∀ call ∈ run.calls, search.Early call

end

/-- What has been tuned is in the archive. -/
def Known (run : SearchRun) : Prop :=
  ∀ key ∈ search.tunedKeys run.calls, key ∈ run.archive.map ArchiveEntry.key

def TuningRun (generation : Nat) (run : SearchRun) : Prop :=
  search.EarlyRun (search.spec.budget.tuningRuns generation) run ∧ search.Known run

variable {search}

section

variable (calls : List EvaluatorCall) (call : EvaluatorCall)

theorem tunedKeys_append : search.tunedKeys (calls ++ [call]) = search.tunedKeys calls ++
        if call.phase = .tuning then call.candidates.map search.key else [] := by
  unfold tunedKeys
  rw [List.filter_append, List.flatMap_append]
  split
  · next isTuning => simp [isTuning]
  · next notTuning => simp [notTuning]

theorem spent_append : spent (calls ++ [call]) = spent calls + call.runs := by
  unfold spent
  rw [List.map_append, List.sum_append, List.map_singleton, List.sum_singleton]

end

theorem Orderly.mono {limit larger runsUsed : Nat} {exhausted : Bool} {calls : List EvaluatorCall}
    (orderly : search.Orderly limit runsUsed exhausted calls) (isLarger : limit ≤ larger) :
    search.Orderly larger runsUsed exhausted calls :=
  { orderly with
    used := orderly.used.trans isLarger
    within := orderly.within.trans isLarger }

/-- What makes a call fit a search: what it tunes is new, and no early call
follows a late one. -/
structure Fits (call : EvaluatorCall) (run : SearchRun) : Prop where
  distinct : call.phase = .tuning → (call.candidates.map search.key).Nodup
  fresh : call.phase = .tuning → ∀ key ∈ call.candidates.map search.key,
    key ∉ search.tunedKeys run.calls
  inOrder : search.Late call ∨ (search.Early call ∧ ∀ made ∈ run.calls, search.Early made)

theorem Orderly.call {limit runsUsed : Nat} {exhausted : Bool} {run : SearchRun}
    {call : EvaluatorCall} (orderly : search.Orderly limit runsUsed exhausted run.calls)
    (fits : search.Fits call run) :
    search.Orderly (limit + call.runs) runsUsed exhausted (run.calls ++ [call]) := by
  refine ⟨orderly.used.trans (Nat.le_add_right _ _), ?_, orderly.enough, ?_, ?_⟩
  · rw [spent_append]
    exact Nat.add_le_add_right orderly.within _
  · rw [tunedKeys_append]
    split
    · next isTuning =>
        rw [List.nodup_append]
        refine ⟨orderly.once, fits.distinct isTuning, ?_⟩
        intro old isOld key isNew same
        exact fits.fresh isTuning key isNew (same ▸ isOld)
    · rw [List.append_nil]
      exact orderly.once
  · rcases fits.inOrder with isLate | ⟨isEarly, allEarly⟩
    · obtain ⟨early, late, isSplit, areEarly, areLate⟩ := orderly.order
      refine ⟨early, late ++ [call], ?_, areEarly, ?_⟩
      · rw [isSplit, List.append_assoc]
      · intro made member
        rcases List.mem_append.mp member with old | isNew
        · exact areLate made old
        · rw [List.mem_singleton.mp isNew]
          exact isLate
    · refine ⟨run.calls ++ [call], [], (List.append_nil _).symm, ?_, ?_⟩
      · intro made member
        rcases List.mem_append.mp member with old | isNew
        · exact allEarly made old
        · rw [List.mem_singleton.mp isNew]
          exact isEarly
      · exact nofun

/-! ## One evaluation -/

/-- What an evaluation does to a search: it makes its call or none, and uses its
runs or none. -/
structure Evaluated (call : EvaluatorCall) (start later : SearchRun) : Prop where
  archive : later.archive = start.archive
  exhausted : later.budgetExhausted = start.budgetExhausted
  used : later.runsUsed ≤ start.runsUsed + call.runs
  calls : later.calls = start.calls ∨ later.calls = start.calls ++ [call]

theorem evaluate_ensures {start : SearchRun} {call : EvaluatorCall} {generation : Option Nat}
    {condition : Option (ℚ × Aggression)} (room : start.runsUsed + call.runs ≤ search.planned) :
    Ensures (fun run => run = start) (search.evaluate call generation condition)
      (fun outcomes later => Evaluated call start later ∧ match outcomes with
        | none => later.cancelled = true
        | some outcomes => outcomes.length = call.candidates.length ∧
            later.calls = start.calls ++ [call])
      (fun _ => False) := by
  unfold evaluate cancel
  apply Ensures.reading
  apply Ensures.changing
  split
  · apply Ensures.changing
    exact Ensures.returned ⟨⟨rfl, rfl, Nat.le_add_right _ _, .inl rfl⟩, rfl⟩
  · rw [if_neg (not_lt.mpr room)]
    apply Ensures.changing
    split
    · apply Ensures.changing
      exact Ensures.returned ⟨⟨rfl, rfl, Nat.le_add_right _ _, .inr rfl⟩, rfl⟩
    · next outcomes _ =>
        apply Ensures.changing
        exact Ensures.returned ⟨⟨rfl, rfl, le_rfl, .inr rfl⟩, outcomes.2, rfl⟩

/-! ## Draws and validation -/

/-- What holds whatever has been drawn, logged and rejected. -/
def Quiet (holds : SearchRun → Prop) : Prop := ∀ run drawn log rejected, holds run →
    holds { run with drawn := drawn, log := log, rejected := rejected }

section Quiet

variable {holds raised : SearchRun → Prop}

variable {population : List Genome} {rank : Nat → Nat} {crowd : Nat → WithTop ℚ}

theorem draw_ensures {Value : Type} (quiet : Quiet holds) (drawing : Drawing Value) :
    Ensures holds (draw drawing) (fun _ => holds) raised :=
  fun run isHeld => quiet run _ run.log run.rejected isHeld

/-- Sampling keeps what making a genome keeps. -/
theorem validGenome_ensures {make : Effect SearchRun Genome} (quiet : Quiet holds)
    (makes : Ensures holds make (fun _ => holds) raised) (attempts : Nat) :
    Ensures holds (search.validGenome make attempts) (fun _ => holds) raised := by
  induction attempts with
  | zero => exact Ensures.give fun _ isHeld => isHeld
  | succ _ ih =>
    unfold validGenome
    apply Ensures.bind makes
    intro genome
    split
    · exact Ensures.give fun _ isHeld => isHeld
    · refine Ensures.bind (?_ : Ensures holds _ (fun _ => holds) raised) fun _ => ih
      apply Ensures.modify
      intro run isHeld
      exact quiet run run.drawn _ _ isHeld

/-- What a population or its offspring are: at most as many as the budget says,
with different keys. -/
structure Brood (search : Search) (genomes : List Genome) : Prop where
  atMost : genomes.length ≤ search.spec.budget.population
  distinct : (genomes.map search.fingerprint).Nodup

theorem Brood.empty : Brood search [] := ⟨Nat.zero_le _, List.nodup_nil⟩

theorem Brood.add {genomes : List Genome} {genome : Genome} (brood : Brood search genomes)
    (room : ¬ search.spec.budget.population ≤ genomes.length)
    (isNew : search.fingerprint genome ∉ genomes.map search.fingerprint) :
    Brood search (genomes ++ [genome]) := by
  constructor
  · rw [List.length_append]
    exact not_le.mp room
  · rw [List.map_append, List.nodup_append]
    refine ⟨brood.distinct, List.nodup_singleton _, ?_⟩
    intro old isOld other isOther same
    rw [List.map_singleton, List.mem_singleton] at isOther
    exact isNew (isOther ▸ same ▸ isOld)

theorem populate_ensures (holds : SearchRun → Prop) (quiet : Quiet holds) (attempts : Nat)
    (brood : Brood search population) : Ensures holds (search.populate attempts population)
      (fun result run => holds run ∧ Brood search result) raised := by
  induction attempts generalizing population with
  | zero => exact Ensures.give fun _ isHeld => ⟨isHeld, brood⟩
  | succ _ ih =>
    unfold populate
    split
    · exact Ensures.give fun _ isHeld => ⟨isHeld, brood⟩
    · next room =>
        apply Ensures.bind (validGenome_ensures quiet (draw_ensures quiet _) _)
        intro genome
        split
        · split
          · exact ih brood
          · next isNew => exact ih (brood.add room isNew)
        · exact ih brood

/-- Breeding may raise: a tournament needs a population. -/
theorem breed_ensures (quiet : Quiet holds) (raises : ∀ run, holds run → raised run) :
    Ensures holds (search.breed population rank crowd) (fun _ => holds) raised := by
  have ofParent : Ensures holds (search.parent population rank crowd)
      (fun _ => holds) raised := by
    unfold parent tournament
    refine Ensures.bind (?_ : Ensures holds _ (fun _ => holds) raised) ?_
    · split
      · exact Ensures.raise raises
      · apply Ensures.bind (draw_ensures quiet _)
        intro a
        apply Ensures.bind (draw_ensures quiet _)
        exact fun b => Ensures.give fun _ isHeld => isHeld
    · intro index
      split
      · exact Ensures.give fun _ isHeld => isHeld
      · exact Ensures.raise raises
  unfold breed
  apply Ensures.bind ofParent
  intro first
  apply Ensures.bind ofParent
  intro second
  apply Ensures.bind (draw_ensures quiet _)
  exact fun crossed => draw_ensures quiet _

theorem reproduce_ensures (holds : SearchRun → Prop) {archive : List ArchiveEntry}
    (quiet : Quiet holds) (raises : ∀ run, holds run → raised run)
    (hasArchive : ∀ run, holds run → run.archive = archive) (attempts : Nat)
    {offspring : List Genome} (brood : Brood search offspring)
    (isNew : ∀ genome ∈ offspring, search.fingerprint genome ∉ archive.map ArchiveEntry.key) :
    Ensures holds (search.reproduce population rank crowd attempts offspring)
      (fun result run => holds run ∧ Brood search result ∧ ∀ genome ∈ result,
          search.fingerprint genome ∉ archive.map ArchiveEntry.key) raised := by
  induction attempts generalizing offspring with
  | zero => exact Ensures.give fun _ isHeld => ⟨isHeld, brood, isNew⟩
  | succ _ ih =>
    unfold reproduce
    split
    · exact Ensures.give fun _ isHeld => ⟨isHeld, brood, isNew⟩
    · next room =>
        apply Ensures.bind (validGenome_ensures quiet (breed_ensures quiet raises) _)
        intro child
        split
        · exact ih brood isNew
        · next child =>
            apply Ensures.read
            intro seen isHeld
            split
            · exact ih brood isNew
            · next unknown =>
                rw [not_or, hasArchive seen isHeld] at unknown
                apply ih (brood.add room unknown.2)
                intro genome member
                rcases List.mem_append.mp member with old | added
                · exact isNew genome old
                · rw [List.mem_singleton.mp added]
                  exact unknown.1

end Quiet

/-! ## Phases and limits -/

theorem Evaluated.keepsOrder {limit : Nat} {call : EvaluatorCall} {start later : SearchRun}
    (evaluated : Evaluated call start later) (orderly : search.OrderlyRun limit start)
    (fits : search.Fits call start) : search.OrderlyRun (limit + call.runs) later := by
  have used : later.runsUsed ≤ limit + call.runs :=
    evaluated.used.trans (Nat.add_le_add_right orderly.used _)
  have called := Orderly.call orderly fits
  have kept := Orderly.mono orderly (Nat.le_add_right limit call.runs)
  unfold OrderlyRun
  rw [evaluated.exhausted]
  rcases evaluated.calls with same | added
  · rw [same]
    exact { kept with used := used }
  · rw [added]
    exact { called with used := used }

theorem Evaluated.early {limit : Nat} {call : EvaluatorCall} {start later : SearchRun}
    (evaluated : Evaluated call start later) (early : search.EarlyRun limit start)
    (fits : search.Fits call start) (isEarly : search.Early call) :
    search.EarlyRun (limit + call.runs) later := by
  refine ⟨evaluated.keepsOrder early.1 fits, fun made member => ?_⟩
  rcases evaluated.calls with same | added
  · rw [same] at member
    exact early.2 made member
  · rw [added] at member
    rcases List.mem_append.mp member with old | isNew
    · exact early.2 made old
    · rw [List.mem_singleton.mp isNew]
      exact isEarly

theorem OrderlyRun.mono {limit larger : Nat} {run : SearchRun}
    (orderly : search.OrderlyRun limit run) (isLarger : limit ≤ larger) :
    search.OrderlyRun larger run :=
  Orderly.mono orderly isLarger

theorem EarlyRun.mono {limit larger : Nat} {run : SearchRun} (early : search.EarlyRun limit run)
    (isLarger : limit ≤ larger) : search.EarlyRun larger run :=
  ⟨early.1.mono isLarger, early.2⟩

section

variable (budget : Budget)

theorem tuningRuns_succ (generation : Nat) : budget.tuningRuns (generation + 1) =
      budget.tuningRuns generation + budget.population * budget.tuningSeeds := by
  unfold Budget.tuningRuns
  rw [Nat.mul_succ, Nat.add_mul]

theorem tuningRuns_mono {generation later : Nat} (isLater : generation ≤ later) :
    budget.tuningRuns generation ≤ budget.tuningRuns later :=
  Nat.mul_le_mul_right _ (Nat.mul_le_mul_left _ isLater)

theorem untilHeldOut_le_planned : budget.untilHeldOut ≤ budget.plannedRuns := by
  unfold Budget.plannedRuns
  split
  · exact Nat.le_add_right _ _
  · exact le_rfl

theorem untilSelected_le_planned : budget.untilSelected ≤ budget.plannedRuns :=
  (Nat.le_add_right _ _).trans (untilHeldOut_le_planned budget)

theorem untilTuned_le_planned : budget.untilTuned ≤ budget.plannedRuns :=
  (Nat.le_add_right _ _).trans (untilSelected_le_planned budget)

end

variable {generation : Nat} {genomes : List Genome}

/-! ## Tuning -/

theorem candidate_keys (genomes : List Genome) :
    (genomes.map candidate).map search.key = genomes.map search.fingerprint := by
  rw [List.map_map]
  rfl

theorem archived_keys {key : String} (scored : List (Genome × Outcome))
    (archive : List ArchiveEntry)
    (isKnown : key ∈ archive.map ArchiveEntry.key ∨ key ∈ scored.map fun pair => search.fingerprint
      pair.1) : key ∈ (scored.foldl (search.archived generation) archive).map ArchiveEntry.key := by
  induction scored generalizing archive with
  | nil => exact isKnown.resolve_right List.not_mem_nil
  | cons _ _ ih =>
    rw [List.foldl_cons]
    apply ih
    unfold archived
    rcases isKnown with old | isScored
    · left
      split
      · exact old
      · rw [List.map_append]
        exact List.mem_append_left _ old
    · rw [List.map_cons] at isScored
      rcases List.mem_cons.mp isScored with rfl | later
      · left
        split
        · assumption
        · rw [List.map_append]
          exact List.mem_append_right _ List.mem_cons_self
      · exact .inr later

theorem score_ensures (archive : List ArchiveEntry) {number : Nat} {raised : SearchRun → Prop}
    (isPlanned : generation + 1 ≤ search.spec.budget.generations) (brood : Brood search genomes)
    (isNew : ∀ genome ∈ genomes, search.fingerprint genome ∉ archive.map ArchiveEntry.key) :
    Ensures (fun run => search.TuningRun generation run ∧ run.archive = archive)
      (search.score genomes number) (fun objectives run =>
        search.EarlyRun search.spec.budget.untilTuned run ∧
          (objectives.isSome → search.TuningRun (generation + 1) run)) raised := by
  have soFar : search.spec.budget.tuningRuns (generation + 1) ≤
      search.spec.budget.untilTuned := tuningRuns_mono _ isPlanned
  have step := tuningRuns_succ search.spec.budget generation
  have runs : (search.tuningCall genomes).runs ≤
      search.spec.budget.population * search.spec.budget.tuningSeeds := by
    unfold EvaluatorCall.runs tuningCall
    rw [List.length_map, search.pools.tuningLength]
    exact Nat.mul_le_mul_right _ brood.atMost
  apply Ensures.of_each
  rintro start ⟨⟨early, known⟩, hasArchive⟩
  unfold score
  split
  · apply Ensures.returned
    have later : search.EarlyRun (search.spec.budget.tuningRuns (generation + 1)) start :=
      early.mono (step ▸ Nat.le_add_right _ _)
    exact ⟨later.mono soFar, fun _ => ⟨later, known⟩⟩
  · have isEarly : search.Early (search.tuningCall genomes) := .inl ⟨rfl, rfl⟩
    have fits : search.Fits (search.tuningCall genomes) start := by
      refine ⟨fun _ => ?_, fun _ key member isTuned => ?_, .inr ⟨isEarly, early.2⟩⟩
      · unfold tuningCall
        rw [candidate_keys]
        exact brood.distinct
      · unfold tuningCall at member
        rw [candidate_keys] at member
        obtain ⟨genome, isOf, rfl⟩ := List.mem_map.mp member
        exact isNew genome isOf (hasArchive ▸ known _ isTuned)
    have room : start.runsUsed + (search.tuningCall genomes).runs ≤ search.planned := by
      have used := early.1.used
      have within := untilTuned_le_planned search.spec.budget
      change _ ≤ search.spec.budget.plannedRuns
      omega
    apply Ensures.bind
      ((evaluate_ensures room).mono (fun _ same => same) (fun _ _ holds => holds)
        fun _ impossible => impossible.elim)
    intro outcomes
    cases outcomes with
    | none =>
      apply Ensures.give
      rintro run ⟨evaluated, _⟩
      refine ⟨(evaluated.early early fits isEarly).mono ?_, nofun⟩
      omega
    | some outcomes =>
      refine Ensures.bind (?_ : Ensures _ _
        (fun _ run => search.TuningRun (generation + 1) run) _) ?_
      · apply Ensures.modify
        rintro run ⟨evaluated, isComplete, isCalled⟩
        constructor
        · refine (evaluated.early early fits isEarly).mono ?_
          omega
        · intro key isTuned
          change key ∈ search.tunedKeys run.calls at isTuned
          apply archived_keys
          rw [isCalled, tunedKeys_append] at isTuned
          rcases List.mem_append.mp isTuned with old | added
          · left
            rw [evaluated.archive]
            exact known key old
          · right
            have isTuning : (search.tuningCall genomes).phase = .tuning := rfl
            rw [if_pos isTuning] at added
            unfold tuningCall at added isComplete
            rw [candidate_keys] at added
            rw [List.length_map] at isComplete
            change key ∈ (genomes.zip outcomes).map (search.fingerprint ∘ Prod.fst)
            rw [← List.map_map, List.map_fst_zip isComplete.ge]
            exact added
      · intro _
        apply Ensures.give
        intro run tuning
        exact ⟨tuning.1.mono soFar, fun _ => tuning⟩

theorem TuningRun.searched {run : SearchRun} (tuning : search.TuningRun generation run)
    (isPlanned : generation ≤ search.spec.budget.generations) :
    search.EarlyRun search.spec.budget.untilTuned run :=
  tuning.1.mono (tuningRuns_mono _ isPlanned)

theorem EarlyRun.planned {run : SearchRun}
    (early : search.EarlyRun search.spec.budget.untilTuned run) :
    search.OrderlyRun search.planned run :=
  early.1.mono (untilTuned_le_planned _)

theorem evolve_ensures (left generation : Nat) {population : List Genome}
    {objectives : List (Option (Objectives 4))}
    (isPlanned : generation + left ≤ search.spec.budget.generations) :
    Ensures (search.TuningRun generation)
      (search.evolve left generation population objectives)
      (fun _ => search.EarlyRun search.spec.budget.untilTuned)
      (search.OrderlyRun search.planned) := by
  induction left generalizing generation population objectives with
  | zero => exact Ensures.give fun _ tuning => tuning.searched isPlanned
  | succ _ ih =>
    have inPlan : generation + 1 ≤ search.spec.budget.generations := by omega
    unfold evolve
    apply Ensures.of_each
    intro start tuning
    apply Ensures.bind
    · refine (reproduce_ensures (fun run =>
        search.TuningRun generation run ∧ run.archive = start.archive)
        (fun _ _ _ _ isHeld => isHeld) ?_ (fun _ isHeld => isHeld.2) _
        Brood.empty nofun).of_stronger ?_
      · exact fun _ isHeld => (isHeld.1.searched (by omega)).planned
      · rintro state rfl
        exact ⟨tuning, rfl⟩
    · intro offspring
      apply Ensures.of_each
      rintro bred ⟨⟨stillTuning, sameArchive⟩, brood, isNew⟩
      apply Ensures.bind
      · refine (score_ensures start.archive inPlan brood isNew).of_stronger ?_
        rintro state rfl
        exact ⟨stillTuning, sameArchive⟩
      · intro childObjectives
        cases childObjectives with
        | none => exact Ensures.give fun _ scored => scored.1
        | some =>
          refine (ih (generation + 1) (by omega)).of_stronger ?_
          exact fun _ scored => scored.2 rfl

/-- Tuning, from the start. -/
theorem tune_ensures : Ensures (fun run => run = {}) search.tune
      (fun _ => search.EarlyRun search.spec.budget.untilTuned)
      (search.OrderlyRun search.planned) := by
  have start : search.TuningRun 0 {} := by
    refine ⟨⟨⟨Nat.zero_le _, Nat.zero_le _, rfl, List.nodup_nil, [], [], rfl, ?_, ?_⟩, ?_⟩, ?_⟩
    · exact nofun
    · exact nofun
    · exact fun _ member => absurd member List.not_mem_nil
    · exact nofun
  have some := search.spec.budget.generationsBounds.1
  unfold tune
  apply Ensures.bind
  · refine (populate_ensures (fun run =>
      search.TuningRun 0 run ∧ run.archive = []) (fun _ _ _ _ isHeld => isHeld)
      _ Brood.empty).of_stronger ?_
    rintro state rfl
    exact ⟨start, rfl⟩
  · intro population
    apply Ensures.of_each
    rintro populated ⟨⟨tuning, noArchive⟩, brood⟩
    apply Ensures.bind
    · refine (score_ensures [] some brood nofun).of_stronger ?_
      rintro state rfl
      exact ⟨tuning, noArchive⟩
    · intro objectives
      cases objectives with
      | none => exact Ensures.give fun _ scored => scored.1
      | some =>
        refine (evolve_ensures _ 1 ?_).of_stronger ?_
        · omega
        · exact fun _ scored => scored.2 rfl

/-! ## Selection -/

theorem paretoEntries_length (entries : List ArchiveEntry) :
    (search.paretoEntries entries).length ≤ search.spec.budget.paretoCap := by
  unfold paretoEntries
  refine (List.length_filterMap_le _ _).trans ?_
  exact (selectSurvivors_length _ _).trans (Nat.min_le_right _ _)

theorem select_ensures (fewGenomes : genomes.length ≤ search.spec.budget.paretoCap) :
    Ensures (search.EarlyRun search.spec.budget.untilTuned) (search.select genomes)
      (fun shortlist run => shortlist.length ≤ search.spec.budget.shortlist ∧
          search.OrderlyRun search.spec.budget.untilSelected run)
      (search.OrderlyRun search.planned) := by
  have runs : (search.selectionCall genomes).runs ≤
      search.spec.budget.paretoCap * search.spec.budget.selectionSeeds := by
    unfold EvaluatorCall.runs selectionCall
    rw [List.length_map, search.pools.selectionLength]
    exact Nat.mul_le_mul_right _ fewGenomes
  apply Ensures.of_each
  intro start early
  have fits : search.Fits (search.selectionCall genomes) start :=
    ⟨nofun, nofun, .inr ⟨.inr ⟨rfl, rfl⟩, early.2⟩⟩
  have room : start.runsUsed + (search.selectionCall genomes).runs ≤ search.planned := by
    refine le_trans ?_ (untilSelected_le_planned search.spec.budget)
    exact Nat.add_le_add early.1.used runs
  have selected {later : SearchRun}
      (evaluated : Evaluated (search.selectionCall genomes) start later) :
      search.OrderlyRun search.spec.budget.untilSelected later :=
    (evaluated.keepsOrder early.1 fits).mono (Nat.add_le_add_left runs _)
  unfold select
  apply Ensures.bind
    ((evaluate_ensures room).mono (fun _ same => same) (fun _ _ holds => holds)
      fun _ impossible => impossible.elim)
  intro outcomes
  cases outcomes with
  | none =>
    exact Ensures.give fun _ evaluated => ⟨Nat.zero_le _, selected evaluated.1⟩
  | some =>
    apply Ensures.give
    rintro run ⟨evaluated, _⟩
    refine ⟨(List.length_filterMap_le _ _).trans ?_, selected evaluated⟩
    exact (selectSurvivors_length _ _).trans (Nat.min_le_left _ _)

/-! ## Held-out seeds -/

theorem heldOutSeeds_ensures (holds : SearchRun → Prop) {raised : SearchRun → Prop}
    (raises : ∀ run, holds run → raised run) : Ensures holds search.heldOutSeeds
      (fun seeds run => seeds = search.pools.heldOut ∧ holds run) raised := by
  unfold heldOutSeeds
  apply Ensures.read
  intro seen _
  split
  · exact Ensures.give fun _ isHeld => ⟨rfl, isHeld⟩
  · exact Ensures.raise raises

section

variable {shortlist : List Genome} (isShort : shortlist.length ≤ search.spec.budget.shortlist)

include isShort

theorem finalists_length : (finalists shortlist).length ≤ search.spec.budget.finalists := by
  unfold finalists Budget.finalists
  rw [List.length_append, List.length_map, List.length_map]
  exact Nat.add_le_add_right isShort _

theorem heldOut_ensures : Ensures (search.OrderlyRun search.spec.budget.untilSelected)
      (search.heldOut shortlist) (fun _ => search.OrderlyRun search.spec.budget.untilHeldOut)
      (search.OrderlyRun search.planned) := by
  unfold heldOut
  apply Ensures.bind (heldOutSeeds_ensures _ fun _ orderly =>
    orderly.mono (untilSelected_le_planned _))
  intro seeds
  apply Ensures.of_each
  rintro start ⟨rfl, orderly⟩
  have runs : (EvaluatorCall.mk (finalists shortlist) search.pools.heldOut
      search.spec.regime .heldOut).runs ≤
        search.spec.budget.finalists * search.spec.budget.heldOutSeeds := by
    dsimp only [EvaluatorCall.runs]
    rw [search.pools.heldOutLength]
    exact Nat.mul_le_mul_right _ (finalists_length isShort)
  have fits : search.Fits ⟨finalists shortlist, search.pools.heldOut,
      search.spec.regime, .heldOut⟩ start :=
    ⟨nofun, nofun, .inl ⟨.inl rfl, fun _ member => member⟩⟩
  have room := (Nat.add_le_add orderly.used runs).trans (untilHeldOut_le_planned search.spec.budget)
  apply Ensures.bind
    ((evaluate_ensures room).mono (fun _ same => same) (fun _ _ holds => holds)
      fun _ impossible => impossible.elim)
  intro outcomes
  cases outcomes with
  | none | some outcomes =>
    exact Ensures.give fun _ evaluated =>
      (evaluated.1.keepsOrder orderly fits).mono (Nat.add_le_add_left runs _)

end

theorem unseenFrom_ensures (limit : Nat) {candidates : List Candidate} {seeds : List Nat}
    {each : Nat} (conditions : List (ℚ × Aggression))
    {table : List (ℚ × Aggression × List (Candidate × Outcome))}
    (areHeldOut : ∀ seed ∈ seeds, seed ∈ search.pools.heldOut)
    (cost : candidates.length * seeds.length ≤ each)
    (inPlan : limit + conditions.length * each ≤ search.planned) :
    Ensures (search.OrderlyRun limit) (search.unseenFrom candidates seeds conditions table)
      (fun _ => search.OrderlyRun search.planned) (search.OrderlyRun search.planned) := by
  induction conditions generalizing limit table with
  | nil =>
    apply Ensures.give
    exact fun _ orderly => orderly.mono ((Nat.le_add_right _ _).trans inPlan)
  | cons condition _ ih =>
    rw [List.length_cons, Nat.succ_mul] at inPlan
    unfold unseenFrom
    apply Ensures.of_each
    intro start orderly
    have fits : search.Fits ⟨candidates, seeds, search.unseenRegime condition, .unseen⟩ start :=
      ⟨nofun, nofun, .inl ⟨.inr rfl, areHeldOut⟩⟩
    have spends (later : SearchRun) (evaluated : Evaluated ⟨candidates, seeds,
          search.unseenRegime condition, .unseen⟩ start later) :
        search.OrderlyRun (limit + each) later :=
      (evaluated.keepsOrder orderly fits).mono (Nat.add_le_add_left cost _)
    have room : start.runsUsed + candidates.length * seeds.length ≤ search.planned := by
      have used := orderly.used
      omega
    apply Ensures.bind ((evaluate_ensures room).mono (fun _ same => same)
        (fun _ _ holds => holds) fun _ impossible => impossible.elim)
    intro outcomes
    cases outcomes with
    | none =>
      apply Ensures.give
      intro run evaluated
      refine (spends run evaluated.1).mono ?_
      omega
    | some =>
      refine (ih (limit + each) ?_).of_stronger (fun run evaluated => spends run evaluated.1)
      omega

theorem unseen_ensures {shortlist : List Genome} (hasGrid : search.spec.budget.unseenGrid = true)
    (isShort : shortlist.length ≤ search.spec.budget.shortlist) :
    Ensures (search.OrderlyRun search.spec.budget.untilHeldOut) (search.unseen shortlist)
      (fun _ => search.OrderlyRun search.planned) (search.OrderlyRun search.planned) := by
  unfold unseen
  apply Ensures.bind (heldOutSeeds_ensures _ fun _ orderly =>
    orderly.mono (untilHeldOut_le_planned _))
  intro seeds
  apply Ensures.of_each
  rintro start ⟨rfl, orderly⟩
  have cost : (finalists shortlist).length * (search.pools.heldOut.take unseenSeeds).length ≤
        search.spec.budget.finalists * unseenSeeds :=
    Nat.mul_le_mul (finalists_length isShort) (List.length_take_le _ _)
  refine (unseenFrom_ensures search.spec.budget.untilHeldOut unseenConditions
    (fun seed member => List.mem_of_mem_take member) cost ?_).of_stronger ?_
  · unfold planned Budget.plannedRuns
    rw [if_pos hasGrid]
    apply Nat.add_le_add_left
    have four : unseenConditions.length = unseenDemandScales.length * unseenAggression.length := rfl
    rw [four]
    apply le_of_eq
    ring
  · rintro state rfl
    exact orderly

/-! ## Whole searches -/

/-- What a search spends and sees, whether it returns or raises. -/
structure Frugal (search : Search) (result : Except String Report) (final : SearchRun) : Prop where
  withinBudget : final.runsUsed ≤ search.planned ∧ spent final.calls ≤ search.planned
  neverExhausted : final.budgetExhausted = false
  reported : ∀ report, result = .ok report →
    report.used ≤ search.planned ∧ report.budgetExhausted = false
  tunedOnce : (search.tunedKeys final.calls).Nodup
  tunedOnly : ∀ call ∈ final.calls, call.phase ≠ .tuning →
    ∀ seed ∈ call.seeds, seed ∉ search.pools.tuning
  isSealed : ∀ before call after, final.calls = before ++ call :: after →
    (∃ seed ∈ call.seeds, seed ∈ search.pools.heldOut) → ∀ other ∈ call :: after,
        other.phase ≠ .tuning ∧ other.phase ≠ .selection

/-- An orderly search sees no held-out seed before its late calls. -/
theorem OrderlyRun.isFrugal {final : SearchRun} {result : Except String Report}
    (orderly : search.OrderlyRun search.planned final)
    (reported : ∀ report, result = .ok report → report.used = final.runsUsed ∧
        report.budgetExhausted = final.budgetExhausted) : search.Frugal result final := by
  obtain ⟨early, late, isSplit, areEarly, areLate⟩ := orderly.order
  refine ⟨⟨orderly.used, orderly.within⟩, orderly.enough,
    fun report isReport => ?_, orderly.once, fun call member notTuning => ?_,
    fun before call after isCalls hasHeldOut => ?_⟩
  · obtain ⟨used, exhausted⟩ := reported report isReport
    rw [used, exhausted]
    exact ⟨orderly.used, orderly.enough⟩
  · intro seed isSeed isTuning
    have fresh := search.pools.tuning_fresh isTuning
    rw [isSplit] at member
    rcases List.mem_append.mp member with isEarly | isLate
    · rcases areEarly call isEarly with ⟨tuning, _⟩ | ⟨_, selection⟩
      · exact notTuning tuning
      · exact fresh.1 (selection ▸ isSeed)
    · exact fresh.2 ((areLate call isLate).2 seed isSeed)
  · have notEarly : call ∉ early := by
      intro isEarly
      obtain ⟨seed, isSeed, isHeldOut⟩ := hasHeldOut
      have fresh := search.pools.heldOut_fresh isHeldOut
      rcases areEarly call isEarly with ⟨_, seeds⟩ | ⟨_, seeds⟩
      · exact fresh.1 (seeds ▸ isSeed)
      · exact fresh.2 (seeds ▸ isSeed)
    have isAfter : ∀ other ∈ call :: after, other ∈ late := by
      rw [isSplit] at isCalls
      rcases List.append_eq_append_iff.mp isCalls with
        ⟨more, _, isLate⟩ | ⟨more, isEarly, isRest⟩
      · intro other member
        rw [isLate]
        exact List.mem_append_right _ member
      · cases more with
        | nil =>
          intro other member
          rw [isRest] at member
          exact member
        | cons =>
          have same := (List.cons.inj isRest).1
          apply absurd _ notEarly
          rw [isEarly, same]
          exact List.mem_append_right _ List.mem_cons_self
    intro other member
    rcases (areLate other (isAfter other member)).1 with isPhase | isPhase
    · rw [isPhase]
      exact ⟨nofun, nofun⟩
    · rw [isPhase]
      exact ⟨nofun, nofun⟩

theorem run_ensures : Ensures (fun run => run = {}) search.run
      (fun report final => search.OrderlyRun search.planned final ∧
        report.used = final.runsUsed ∧ report.budgetExhausted = final.budgetExhausted)
      (search.OrderlyRun search.planned) := by
  unfold run
  apply Ensures.bind tune_ensures
  intro _
  apply Ensures.read
  intro tuned _
  refine Ensures.bind (?_ : Ensures _ _ (fun (shortlist : List Genome) run =>
      shortlist.length ≤ search.spec.budget.shortlist ∧
        search.OrderlyRun search.spec.budget.untilSelected run) _) ?_
  · unfold selectPhase
    split
    · apply select_ensures
      rw [List.length_map]
      exact paretoEntries_length _
    · exact Ensures.give fun _ early => ⟨Nat.zero_le _, early.1.mono (Nat.le_add_right _ _)⟩
  intro shortlist
  refine Ensures.bind (?_ : Ensures _ _
    (fun _ run => shortlist.length ≤ search.spec.budget.shortlist ∧
      search.OrderlyRun search.spec.budget.untilSelected run) _) ?_
  · exact Ensures.modify fun _ isSelected => isSelected
  intro _
  apply Ensures.read
  rintro selected ⟨isShort, _⟩
  refine Ensures.bind (?_ : Ensures _ _
    (fun _ => search.OrderlyRun search.spec.budget.untilHeldOut) _) ?_
  · unfold heldOutPhase
    split
    · exact (heldOut_ensures isShort).mono (fun _ known => known.2)
        (fun _ _ holds => holds) fun _ raises => raises
    · exact Ensures.give fun _ known => known.2.mono (Nat.le_add_right _ _)
  intro heldOut
  apply Ensures.read
  intro tested _
  refine Ensures.bind (?_ : Ensures _ _
    (fun _ => search.OrderlyRun search.planned) _) ?_
  · unfold unseenPhase
    split
    · next grid => exact unseen_ensures grid.2.1 isShort
    · exact Ensures.give fun _ orderly => orderly.mono (untilHeldOut_le_planned _)
  -- The report is made from the state it is returned in.
  intro unseen final orderly
  exact ⟨orderly, rfl, rfl⟩

/-- Every search is frugal. -/
theorem frugal (search : Search) : search.Frugal (search.run {}).1 (search.run {}).2 := by
  have ends := @run_ensures search {} rfl
  cases ended : search.run {} with
  | mk result final =>
    rw [ended] at ends
    cases result with
    | ok report =>
      obtain ⟨orderly, used, exhausted⟩ := ends
      apply orderly.isFrugal
      intro other isReport
      rw [← Except.ok.inj isReport]
      exact ⟨used, exhausted⟩
    | error exc => exact OrderlyRun.isFrugal ends fun _ => nofun

end Search
end UrbanFlow.Discovery
