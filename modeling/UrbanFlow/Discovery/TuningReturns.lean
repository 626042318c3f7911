import UrbanFlow.Discovery.Fronts
import UrbanFlow.Discovery.Search

/-!
# When tuning returns

A tournament needs a population. Once the first population has a genome, every later
one has one too and tuning returns; when all its samples are rejected, the first
generation after it raises.
-/

namespace UrbanFlow.Discovery
namespace Search

open Nsga2 Effect

variable {search : Search}

theorem draw_returns {Value : Type} (drawing : Drawing Value) :
    Returns (draw drawing) fun _ => True :=
  fun _ => ⟨_, _, rfl, trivial⟩

theorem tournament_returns {size : Nat} (some : 0 < size) (rank : Nat → Nat)
    (crowd : Nat → WithTop ℚ) : Returns (search.tournament size rank crowd) (· < size) := by
  have drawn : Returns (draw (search.rng.randrange size)) (· < size) :=
    fun run => ⟨_, _, rfl, search.rng.belowAt_lt run.drawn size some⟩
  rw [tournament, if_neg (Nat.ne_of_gt some)]
  apply drawn.bind
  intro a aInRange
  apply drawn.bind
  intro b bInRange
  apply Returns.give
  unfold better
  split_ifs
  · exact aInRange
  · exact bInRange
  · exact aInRange
  · exact bInRange
  · exact (Nat.min_le_left a b).trans_lt aInRange

section Population

variable {population : List Genome} (notEmpty : population ≠ []) (rank : Nat → Nat)
  (crowd : Nat → WithTop ℚ)

include notEmpty

theorem parent_returns : Returns (search.parent population rank crowd) fun _ => True := by
  apply (tournament_returns (List.length_pos_iff.mpr notEmpty) rank crowd).bind
  intro index inRange
  rw [List.getElem?_eq_getElem inRange]
  exact Returns.give trivial

theorem breed_returns : Returns (search.breed population rank crowd) fun _ => True := by
  have ofParent : Returns (search.parent population rank crowd) fun _ => True :=
    parent_returns notEmpty rank crowd
  apply ofParent.bind
  intro first _
  apply ofParent.bind
  intro second _
  apply (draw_returns _).bind
  exact fun crossed _ => draw_returns _

end Population

/-- Sampling gives up after its attempts. -/
theorem validGenome_returns {make : Effect SearchRun Genome}
    (makes : Returns make fun _ => True) (attempts : Nat) :
    Returns (search.validGenome make attempts) fun _ => True := by
  induction attempts with
  | zero => exact Returns.give trivial
  | succ _ ih =>
    unfold validGenome
    apply makes.bind
    intro genome _
    split
    · exact Returns.give trivial
    · exact Returns.modify ih

theorem reproduce_returns {population : List Genome} (notEmpty : population ≠ [])
    (rank : Nat → Nat) (crowd : Nat → WithTop ℚ) (attempts : Nat) (offspring : List Genome) :
    Returns (search.reproduce population rank crowd attempts offspring) fun _ => True := by
  have breeds : Returns (search.breed population rank crowd) fun _ => True :=
    breed_returns notEmpty rank crowd
  induction attempts generalizing offspring with
  | zero => exact Returns.give trivial
  | succ _ ih =>
    unfold reproduce
    split
    · exact Returns.give trivial
    · apply (validGenome_returns breeds _).bind
      intro child _
      cases child with
      | none => exact ih offspring
      | some =>
        apply Returns.read
        intro seen
        split
        · exact ih offspring
        · exact ih _

theorem evaluate_returns (call : EvaluatorCall) (generation : Option Nat)
    (condition : Option (ℚ × Aggression)) :
    Returns (search.evaluate call generation condition) fun outcomes =>
      ∀ found ∈ outcomes, found.length = call.candidates.length := by
  unfold evaluate cancel
  apply Returns.read
  intro run
  apply Returns.modify
  split
  · apply Returns.modify
    exact Returns.give nofun
  · split
    · apply Returns.modify
      exact Returns.give nofun
    · apply Returns.modify
      split
      · apply Returns.modify
        exact Returns.give nofun
      · next outcomes _ =>
          apply Returns.modify
          apply Returns.give
          rintro found ⟨⟩
          exact outcomes.2

theorem score_returns (genomes : List Genome) (generation : Nat) :
    Returns (search.score genomes generation) fun objectives =>
      ∀ found ∈ objectives, found.length = genomes.length := by
  unfold score
  split
  · next isEmpty =>
      apply Returns.give
      rintro found ⟨⟩
      rw [isEmpty]
      rfl
  · apply (evaluate_returns _ _ _).bind
    intro outcomes counted
    cases outcomes with
    | none => exact Returns.give nofun
    | some outcomes =>
      apply Returns.modify
      apply Returns.give
      rintro found ⟨⟩
      rw [List.length_map, counted outcomes rfl]
      exact List.length_map _

/-- The survivors of a population that is not empty are its next population. -/
theorem length_survivors {pool : List Genome} {objectives : List (Option (Objectives 4))}
    (counted : objectives.length = pool.length) (size : Nat) :
    ((selectSurvivors objectives size).filterMap fun i => pool[i]?).length =
      min size pool.length := by
  rw [← counted, ← length_selectSurvivors]
  apply List.filterMap_length_eq_length.mpr
  intro i survives
  rw [List.getElem?_eq_getElem (counted ▸ selectSurvivors_lt i survives)]
  rfl

theorem evolve_returns (left generation : Nat) {population : List Genome}
    {objectives : List (Option (Objectives 4))} (notEmpty : population ≠ [])
    (counted : objectives.length = population.length) :
    Returns (search.evolve left generation population objectives) fun _ => True := by
  induction left generalizing generation population objectives with
  | zero => exact Returns.give trivial
  | succ _ ih =>
    unfold evolve
    apply (reproduce_returns notEmpty _ _ _ _).bind
    intro offspring _
    apply (score_returns offspring generation).bind
    intro childObjectives childCounted
    cases childObjectives with
    | none => exact Returns.give trivial
    | some childObjectives =>
      have poolCounted : (objectives ++ childObjectives).length =
            (population ++ offspring).length := by
        rw [List.length_append, List.length_append, counted, childCounted childObjectives rfl]
      have survivors := length_survivors poolCounted search.spec.budget.population
      have isSome := List.length_pos_iff.mpr notEmpty
      have room := search.spec.budget.populationBounds.1
      apply ih
      · rw [← List.length_pos_iff, survivors, List.length_append]
        omega
      · rw [survivors, List.length_map, length_selectSurvivors, poolCounted]

variable (search) in
/-- How many draws are made before a sample of the first population. -/
def drawsBefore : Nat → Nat
  | 0 => 0
  | k + 1 => (Genome.random search.rng search.strategies (drawsBefore k)).2

variable (search) in
/-- A sample of the first population: the random genome that is drawn after those
before it. -/
def sample (k : Nat) : Genome :=
  (Genome.random search.rng search.strategies (search.drawsBefore k)).1

variable (search) in
/-- The validator accepts a sample. -/
def Accepts (k : Nat) : Prop := search.validate search.spec.regime (search.sample k) = none

section

variable (attempts : Nat)

theorem validGenome_samples {k : Nat} {run : SearchRun} (drawn : run.drawn = search.drawsBefore k) :
    ∃ found later, search.validGenome (draw (Genome.random search.rng search.strategies)) attempts
          run = (.ok found, later) ∧ (found = none ↔ ∀ j < attempts, ¬ search.Accepts (k + j)) ∧
        (found = none → later.drawn = search.drawsBefore (k + attempts)) := by
  induction attempts generalizing k run with
  | zero => exact ⟨none, run, rfl, by simp, fun _ => drawn⟩
  | succ attempts ih =>
    have sampled : draw (Genome.random search.rng search.strategies) run =
          (.ok (search.sample k), { run with drawn := search.drawsBefore (k + 1) }) := by
      rw [draw, drawn]
      rfl
    unfold validGenome
    rw [bind_run sampled]
    cases verdict : search.validate search.spec.regime (search.sample k) with
    | none =>
      refine ⟨some (search.sample k), _, rfl, ?_, nofun⟩
      refine iff_of_false nofun fun rejected => ?_
      exact rejected 0 (Nat.succ_pos attempts) verdict
    | some reason =>
      dsimp only
      rw [Effect.modify_bind_run]
      obtain ⟨found, later, ended, none_iff, drawnLater⟩ :=
        @ih (k + 1) { run with
            drawn := search.drawsBefore (k + 1)
            rejected := run.rejected + 1
            log := run.log ++ [.validation (search.fingerprint (search.sample k))
                (String.ofList (reason.toList.take 300))] }
          rfl
      refine ⟨found, later, ended, ?_, ?_⟩
      · rw [none_iff]
        constructor
        · rintro others (_ | j) below
          · rw [Accepts, Nat.add_zero, verdict]
            exact Option.some_ne_none reason
          · rw [← Nat.add_assoc, Nat.add_right_comm]
            exact others j (Nat.lt_of_succ_lt_succ below)
        · intro all j below
          rw [Nat.add_right_comm, Nat.add_assoc]
          exact all (j + 1) (Nat.succ_lt_succ below)
      · intro isNone
        rw [drawnLater isNone, Nat.add_right_comm, Nat.add_assoc]

theorem populate_returns {population : List Genome} (notEmpty : population ≠ []) :
    Returns (search.populate attempts population) (· ≠ []) := by
  induction attempts generalizing population with
  | zero => exact Returns.give notEmpty
  | succ _ ih =>
    unfold populate
    split
    · exact Returns.give notEmpty
    · apply (validGenome_returns (draw_returns _) _).bind
      intro genome _
      cases genome with
      | none => exact ih notEmpty
      | some =>
        dsimp only
        split
        · exact ih notEmpty
        · exact ih (List.append_ne_nil_of_left_ne_nil notEmpty _)

theorem populate_samples {k : Nat} {run : SearchRun} (drawn : run.drawn = search.drawsBefore k) :
    ∃ population later, search.populate attempts [] run = (.ok population, later) ∧
        (population = [] ↔ ∀ j < attempts * maxSamplingAttempts, ¬ search.Accepts (k + j)) := by
  induction attempts generalizing k run with
  | zero => exact ⟨[], run, rfl, by simp⟩
  | succ attempts ih =>
    have room : ¬ search.spec.budget.population ≤ ([] : List Genome).length := by
      have size := search.spec.budget.populationBounds.1
      rw [List.length_nil]
      omega
    obtain ⟨found, sampled, ended, none_iff, drawnLater⟩ :=
      validGenome_samples maxSamplingAttempts drawn
    unfold populate
    rw [if_neg room, bind_run ended]
    cases found with
    | none =>
      obtain ⟨population, later, populated, empty_iff⟩ := ih (drawnLater rfl)
      refine ⟨population, later, populated, ?_⟩
      rw [empty_iff]
      have rejected := none_iff.mp rfl
      constructor
      · intro others j below
        rcases Nat.lt_or_ge j maxSamplingAttempts with isFirst | isLater
        · exact rejected j isFirst
        · obtain ⟨i, rfl⟩ := Nat.exists_eq_add_of_le isLater
          rw [← Nat.add_assoc]
          apply others i
          rw [Nat.succ_mul] at below
          omega
      · intro all j below
        rw [Nat.add_assoc]
        apply all
        rw [Nat.succ_mul]
        omega
    | some genome =>
      obtain ⟨population, later, populated, notEmpty⟩ :=
        @populate_returns search attempts _ (List.cons_ne_nil genome []) sampled
      refine ⟨population, later, populated, iff_of_false notEmpty fun all => ?_⟩
      have isNone := none_iff.mpr fun j below => all j (by
        rw [Nat.succ_mul]
        omega)
      cases isNone

end

/-- Without a population no tournament is held. -/
theorem breed_empty (rank : Nat → Nat) (crowd : Nat → WithTop ℚ) (run : SearchRun) :
    search.breed [] rank crowd run = (.error "empty range for randrange()", run) := by
  have ofTournament : search.tournament ([] : List Genome).length rank crowd run =
        (.error "empty range for randrange()", run) :=
    rfl
  exact bind_run_error (bind_run_error ofTournament)

/-- Without a population the first generation raises. -/
theorem evolve_empty (left generation : Nat) (run : SearchRun) :
    search.evolve (left + 1) generation [] [] run =
      (.error "empty range for randrange()", run) := by
  have size := search.spec.budget.populationBounds.1
  have samples (rank : Nat → Nat) (crowd : Nat → WithTop ℚ) :
      search.validGenome (search.breed [] rank crowd) maxSamplingAttempts run =
        (.error "empty range for randrange()", run) :=
    bind_run_error (breed_empty rank crowd run)
  have bred (rank : Nat → Nat) (crowd : Nat → WithTop ℚ) :
      search.reproduce [] rank crowd (search.spec.budget.population * 10) [] run =
        (.error "empty range for randrange()", run) := by
    have room : ¬ search.spec.budget.population ≤ ([] : List Genome).length := by
      rw [List.length_nil]
      omega
    obtain ⟨attempts, isPositive⟩ : ∃ attempts, search.spec.budget.population * 10 = attempts + 1 :=
      Nat.exists_eq_succ_of_ne_zero (by omega)
    rw [isPositive, reproduce, if_neg room]
    exact bind_run_error (samples rank crowd)
  exact bind_run_error (bred _ _)

/-- The samples that the first population is taken from. -/
def samples (search : Search) : Nat := search.spec.budget.population * 4 * maxSamplingAttempts

theorem tune_of_accepts (accepted : ∃ k < search.samples, search.Accepts k) :
    ∃ later, search.tune {} = (.ok (), later) := by
  obtain ⟨population, populated, ended, empty_iff⟩ :=
    @populate_samples search (search.spec.budget.population * 4) 0 {} rfl
  have notEmpty : population ≠ [] := fun isEmpty => by
    obtain ⟨k, below, accepts⟩ := accepted
    apply empty_iff.mp isEmpty k below
    rwa [Nat.zero_add]
  unfold tune
  rw [bind_run ended]
  refine @Returns.later _ _ (fun _ => True) ?_ populated
  apply (score_returns population 0).bind
  intro objectives counted
  cases objectives with
  | none => exact Returns.give trivial
  | some objectives => exact evolve_returns _ _ notEmpty (counted objectives rfl)

theorem tune_of_rejected (rejected : ∀ k < search.samples, ¬ search.Accepts k) :
    ∃ run, search.tune {} = search.evolve (search.spec.budget.generations - 1) 1 [] [] run := by
  obtain ⟨population, populated, ended, empty_iff⟩ :=
    @populate_samples search (search.spec.budget.population * 4) 0 {} rfl
  have isEmpty : population = [] := empty_iff.mpr fun k below => by
    rw [Nat.zero_add]
    exact rejected k below
  subst isEmpty
  exact ⟨populated, bind_run ended⟩

/-- Tuning returns exactly when it has one generation or one of the samples that the
first population is taken from is accepted. -/
theorem tune_returns_iff (search : Search) :
    (∃ later, search.tune {} = (.ok (), later)) ↔ search.spec.budget.generations = 1 ∨
        ∃ k < search.samples, search.Accepts k := by
  by_cases accepted : ∃ k < search.samples, search.Accepts k
  · exact iff_of_true (tune_of_accepts accepted) (.inr accepted)
  · obtain ⟨run, tuned⟩ := @tune_of_rejected search fun k below accepts =>
      accepted ⟨k, below, accepts⟩
    rw [or_iff_left accepted, tuned]
    have some := search.spec.budget.generationsBounds.1
    cases left : search.spec.budget.generations - 1 with
    | zero => exact iff_of_true ⟨run, rfl⟩ (by omega)
    | succ left =>
      rw [evolve_empty]
      refine iff_of_false ?_ (by omega)
      rintro ⟨later, returns⟩
      cases returns

/-- A search whose validator accepts no genome. -/
def rejecting : Search where
  spec := {}
  pools :=
    { tuning := [1, 2]
      selection := [3, 4, 5]
      heldOut := [6, 7, 8, 9, 10, 11, 12, 13, 14, 15]
      distinct := by decide
      tuningLength := rfl
      selectionLength := rfl
      heldOutLength := rfl }
  rng :=
    { randomAt := fun _ => 0
      gaussAt := fun _ => 0
      belowAt := fun _ _ => 0
      belowAt_lt := fun _ _ some => some }
  digest := fun _ => ""
  validate := fun _ _ => some "no genome fits this regime"
  evaluator := fun _ _ => none
  shouldStop := fun _ => false

/-- Its tuning raises. -/
theorem tune_rejecting : ¬ ∃ later, rejecting.tune {} = (.ok (), later) := by
  obtain ⟨run, tuned⟩ := @tune_of_rejected rejecting fun _ _ => Option.some_ne_none _
  rw [tuned]
  rintro ⟨later, returns⟩
  have raises : rejecting.evolve 5 1 [] [] run = _ := evolve_empty 4 1 run
  cases raises.symm.trans returns

end Search
end UrbanFlow.Discovery
