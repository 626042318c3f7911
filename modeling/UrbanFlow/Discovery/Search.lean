import UrbanFlow.Discovery.Models
import UrbanFlow.Discovery.Nsga2
import UrbanFlow.Library.Effect

/-!
# The search protocol

Tuning by an evolutionary search, selection on fresh seeds, the held-out
evaluation and the unseen conditions. The evaluator, the validator, the stop
requests and the random draws are the search's environment.
-/

namespace UrbanFlow.Discovery

open Nsga2

/-- `Candidate`: a genome, or `none` for an unchanged baseline. -/
structure Candidate where
  strategy : Strategy
  genome : Option Genome := none

inductive Phase
  | tuning
  | selection
  | heldOut
  | unseen
  deriving DecidableEq, Repr

/-- `Outcome`: four objectives, or none for an infeasible candidate. -/
structure Outcome where
  objectives : Option (Objectives 4)
  metrics : List (String × ℚ)
  perSeedDelay : List (Option ℚ)
  infeasibleReason : Option String := none

structure EvaluatorCall where
  candidates : List Candidate
  seeds : List Nat
  regime : Regime
  phase : Phase

def EvaluatorCall.runs (call : EvaluatorCall) : Nat :=
  call.candidates.length * call.seeds.length

/-- A `Search` with its environment: the evaluator answers its calls, one outcome
a candidate or `none` when the batch was cancelled; `shouldStop` answers the stop
checks; `digest` is the hash of `fingerprint`. -/
structure Search where
  spec : SearchSpec
  pools : SeedPools spec.budget
  rng : Rng
  digest : Genome.Relevant → String
  validate : Regime → Genome → Option String
  evaluator : Nat → (call : EvaluatorCall) → Option { outcomes : List Outcome //
      outcomes.length = call.candidates.length }
  shouldStop : Nat → Bool

inductive LogEntry
  | evaluation (phase : Phase) (candidate : String) (strategy : Strategy) (seeds : List Nat)
      (objectives : Option (Objectives 4))
      (infeasible : Option String)
      (generation : Option Nat)
      (condition : Option (ℚ × Aggression))
  | validation (candidate : String) (rejected : String)

/-- A genome of the archive, with its key, its tuning objectives and the
generation that saw it first. -/
structure ArchiveEntry where
  key : String
  genome : Genome
  objectives : Option (Objectives 4)
  generation : Nat

/-- State of a search: that of `SearchState`, the archive, whether the held-out
seeds are released, the draws and stop checks made, and the calls of the
evaluator. -/
structure SearchRun where
  runsUsed : Nat := 0
  log : List LogEntry := []
  rejected : Nat := 0
  cancelled : Bool := false
  budgetExhausted : Bool := false
  archive : List ArchiveEntry := []
  released : Bool := false
  drawn : Nat := 0
  asked : Nat := 0
  calls : List EvaluatorCall := []

/-- What `run` returns; the statistics derived from the outcomes are left out. -/
structure Report where
  cancelled : Bool
  complete : Bool
  planned : Nat
  used : Nat
  budgetExhausted : Bool
  rejected : Nat
  pareto : List ArchiveEntry
  shortlist : List Genome
  heldOut : Option (List (Candidate × Outcome))
  unseen : Option (List (ℚ × Aggression × List (Candidate × Outcome)))

namespace Search

variable (search : Search)

def fingerprint (genome : Genome) : String :=
  search.digest genome.relevant

def key (candidate : Candidate) : String :=
  match candidate.genome with
  | some genome => search.fingerprint genome
  | none => "baseline:" ++ candidate.strategy.name

def planned : Nat := search.spec.budget.plannedRuns

/-- `strategies`: each once, in the order given. -/
def strategies : List Strategy := search.spec.strategies.eraseDups

def candidate (genome : Genome) : Candidate :=
  ⟨genome.strategy, some genome⟩

def cancel : Effect SearchRun Unit :=
  Effect.modify fun run => { run with cancelled := true }

def evaluate (call : EvaluatorCall) (generation : Option Nat)
    (condition : Option (ℚ × Aggression)) : Effect SearchRun (Option (List Outcome)) := do
  let run ← Effect.read
  Effect.modify fun run => { run with asked := run.asked + 1 }
  if search.shouldStop run.asked then
    cancel
    pure none
  else if search.planned < run.runsUsed + call.runs then
    Effect.modify fun run => { run with budgetExhausted := true }
    pure none
  else
    Effect.modify fun run => { run with calls := run.calls ++ [call] }
    match search.evaluator run.calls.length call with
    | none =>
      cancel
      pure none
    | some outcomes =>
      Effect.modify fun run =>
        { run with
          runsUsed := run.runsUsed + call.runs
          log := run.log ++ (call.candidates.zip outcomes.1).map fun (candidate, outcome) =>
              .evaluation call.phase (search.key candidate)
                candidate.strategy call.seeds outcome.objectives
                outcome.infeasibleReason generation condition }
      pure (some outcomes.1)

/-- Draws of the search's generator. -/
def draw {Value : Type} (drawing : Drawing Value) : Effect SearchRun Value :=
  fun run =>
    let (value, drawn) := drawing run.drawn
    (.ok value, { run with drawn := drawn })

/-- `_valid_genome`, with the attempts left. -/
def validGenome (make : Effect SearchRun Genome) : Nat → Effect SearchRun (Option Genome)
  | 0 => pure none
  | attempts + 1 => do
    let genome ← make
    match search.validate search.spec.regime genome with
    | none => pure (some genome)
    | some reason =>
      Effect.modify fun run =>
        { run with
          rejected := run.rejected + 1
          log := run.log ++ [.validation (search.fingerprint genome)
              (String.ofList (reason.toList.take 300))] }
      validGenome make attempts

def maxSamplingAttempts : Nat := 50

/-- The first population, with the attempts left. -/
def populate : Nat → List Genome → Effect SearchRun (List Genome)
  | 0, population => pure population
  | attempts + 1, population =>
    if search.spec.budget.population ≤ population.length then
      pure population
    else do
      let genome ← search.validGenome (draw (Genome.random search.rng search.strategies))
        maxSamplingAttempts
      match genome with
      | some genome =>
        if search.fingerprint genome ∈ population.map search.fingerprint then
          populate attempts population
        else populate attempts (population ++ [genome])
      | none => populate attempts population

/-- `tournament`, among as many as there are. -/
def tournament (size : Nat) (rank : Nat → Nat) (crowd : Nat → WithTop ℚ) : Effect SearchRun Nat :=
  if size = 0 then Effect.raise "empty range for randrange()"
  else do
    let a ← draw (search.rng.randrange size)
    let b ← draw (search.rng.randrange size)
    pure (better rank crowd a b)

section

variable (population : List Genome) (rank : Nat → Nat) (crowd : Nat → WithTop ℚ)

/-- A parent, by a tournament. -/
def parent : Effect SearchRun Genome := do
  let index ← search.tournament population.length rank crowd
  match population[index]? with
  | some genome => pure genome
  | none => Effect.raise "list index out of range"

/-- A child of two parents. -/
def breed : Effect SearchRun Genome := do
  let first ← search.parent population rank crowd
  let second ← search.parent population rank crowd
  let crossed ← draw (Genome.crossover search.rng first second)
  draw (Genome.mutate search.rng crossed search.strategies)

end

def reproduce (population : List Genome) (rank : Nat → Nat) (crowd : Nat → WithTop ℚ) :
    Nat → List Genome → Effect SearchRun (List Genome)
  | 0, offspring => pure offspring
  | attempts + 1, offspring =>
    if search.spec.budget.population ≤ offspring.length then pure offspring
    else do
      let child ← search.validGenome (search.breed population rank crowd) maxSamplingAttempts
      match child with
      | none => reproduce population rank crowd attempts offspring
      | some child =>
        let run ← Effect.read
        if search.fingerprint child ∈ run.archive.map ArchiveEntry.key ∨
            search.fingerprint child ∈ offspring.map search.fingerprint then
          reproduce population rank crowd attempts offspring
        else
          reproduce population rank crowd attempts (offspring ++ [child])

/-- `setdefault` of the archive. -/
def archived (generation : Nat) (archive : List ArchiveEntry)
    (scored : Genome × Outcome) : List ArchiveEntry :=
  if search.fingerprint scored.1 ∈ archive.map ArchiveEntry.key then archive
  else
    archive ++ [⟨search.fingerprint scored.1, scored.1, scored.2.objectives, generation⟩]

/-- The call that tunes some genomes. -/
def tuningCall (genomes : List Genome) : EvaluatorCall :=
  ⟨genomes.map candidate, search.pools.tuning, search.spec.regime, .tuning⟩

def score (genomes : List Genome) (generation : Nat) :
    Effect SearchRun (Option (List (Option (Objectives 4)))) :=
  if genomes = [] then pure (some [])
  else do
    let outcomes ← search.evaluate (search.tuningCall genomes) (some generation) none
    match outcomes with
    | none => pure none
    | some outcomes =>
      Effect.modify fun run =>
        { run with
          archive := (genomes.zip outcomes).foldl (search.archived generation) run.archive }
      pure (some (outcomes.map Outcome.objectives))

def evolve : Nat → Nat → List Genome → List (Option (Objectives 4)) → Effect SearchRun Unit
  | 0, _, _, _ => pure ()
  | left + 1, generation, population, objectives => do
    let (rank, crowd) := rankAndCrowding objectives
    let offspring ← search.reproduce population rank crowd (search.spec.budget.population * 10) []
    let childObjectives ← search.score offspring generation
    match childObjectives with
    | none => pure ()
    | some childObjectives =>
      let pool := population ++ offspring
      let poolObjectives := objectives ++ childObjectives
      let survivors := selectSurvivors poolObjectives search.spec.budget.population
      -- A survivor is an index of the pool.
      evolve left (generation + 1) (survivors.filterMap fun i => pool[i]?)
        (survivors.map fun i => pointAt poolObjectives i)

def tune : Effect SearchRun Unit := do
  let population ← search.populate (search.spec.budget.population * 4) []
  let objectives ← search.score population 0
  match objectives with
  | none => pure ()
  | some objectives =>
    search.evolve (search.spec.budget.generations - 1) 1 population objectives

def paretoEntries (entries : List ArchiveEntry) : List ArchiveEntry :=
  let points := entries.map ArchiveEntry.objectives
  let first := feasible points ((nonDominatedSort points).headD [])
  let keep := selectSurvivors (first.map (pointAt points))
    (min first.length search.spec.budget.paretoCap)
  keep.filterMap fun j => first[j]?.bind fun i => entries[i]?

/-- The call that evaluates the Pareto members on the selection seeds. -/
def selectionCall (genomes : List Genome) : EvaluatorCall :=
  ⟨genomes.map candidate, search.pools.selection, search.spec.regime, .selection⟩

/-- The shortlist of some genomes. -/
def select (genomes : List Genome) : Effect SearchRun (List Genome) := do
  let outcomes ← search.evaluate (search.selectionCall genomes) none none
  match outcomes with
  | none => pure []
  | some outcomes =>
    let chosen := selectSurvivors (outcomes.map Outcome.objectives)
      (min search.spec.budget.shortlist genomes.length)
    pure (chosen.filterMap fun i => genomes[i]?)

def release : Effect SearchRun Unit :=
  Effect.modify fun run => { run with released := true }

/-- `SeedPools.held_out`. -/
def heldOutSeeds : Effect SearchRun (List Nat) := do
  let run ← Effect.read
  if run.released then pure search.pools.heldOut
  else
    Effect.raise "held-out seeds are sealed until the search has finished"

/-- The shortlist and the baselines. -/
def finalists (shortlist : List Genome) : List Candidate :=
  shortlist.map candidate ++ baselines.map fun strategy => ⟨strategy, none⟩

def heldOut (shortlist : List Genome) : Effect SearchRun (Option (List (Candidate × Outcome))) := do
  let seeds ← search.heldOutSeeds
  let outcomes ← search.evaluate
    ⟨finalists shortlist, seeds, search.spec.regime, .heldOut⟩ none none
  match outcomes with
  | none => pure none
  | some outcomes => pure (some ((finalists shortlist).zip outcomes))

def unseenRegime (condition : ℚ × Aggression) : Regime :=
  { search.spec.regime with
    vehiclesPerHour := max 100 (min 1200
      (roundHalfEven (search.spec.regime.vehiclesPerHour * condition.1)))
    aggression := some condition.2 }

def unseenConditions : List (ℚ × Aggression) :=
  unseenDemandScales.flatMap fun scale =>
    unseenAggression.map fun aggression => (scale, aggression)

/-- The loop of `_unseen` over the conditions, with the table so far. -/
def unseenFrom (candidates : List Candidate) (seeds : List Nat) :
    List (ℚ × Aggression) → List (ℚ × Aggression × List (Candidate × Outcome)) →
        Effect SearchRun (Option (List (ℚ × Aggression × List (Candidate × Outcome))))
  | [], table => pure (some table)
  | condition :: conditions, table => do
    let outcomes ← search.evaluate ⟨candidates, seeds, search.unseenRegime condition, .unseen⟩ none
      (some condition)
    match outcomes with
    | none => pure (if table = [] then none else some table)
    | some outcomes =>
      unseenFrom candidates seeds conditions
        (table ++ [(condition.1, condition.2, candidates.zip outcomes)])

section

variable (shortlist : List Genome)

def unseen : Effect SearchRun (Option (List (ℚ × Aggression × List (Candidate × Outcome)))) := do
  let seeds ← search.heldOutSeeds
  search.unseenFrom (finalists shortlist) (seeds.take unseenSeeds) unseenConditions []

/-- The selection of `run`: of some Pareto members, unless the search has been
cancelled. -/
def selectPhase (pareto : List ArchiveEntry) (cancelled : Bool) : Effect SearchRun (List Genome) :=
  if pareto ≠ [] ∧ cancelled = false then
    search.select (pareto.map ArchiveEntry.genome)
  else pure []

/-- The held-out evaluation of `run`. -/
def heldOutPhase (cancelled : Bool) : Effect SearchRun (Option (List (Candidate × Outcome))) :=
  if shortlist ≠ [] ∧ cancelled = false then search.heldOut shortlist
  else pure none

/-- The unseen conditions of `run`. -/
def unseenPhase (isHeldOut cancelled : Bool) :
    Effect SearchRun (Option (List (ℚ × Aggression × List (Candidate × Outcome)))) :=
  if isHeldOut = true ∧ search.spec.budget.unseenGrid = true ∧ cancelled = false then
    search.unseen shortlist
  else pure none

end

def run : Effect SearchRun Report := do
  search.tune
  let tuned ← Effect.read
  let pareto := search.paretoEntries tuned.archive
  let shortlist ← search.selectPhase pareto tuned.cancelled
  -- The search is over: only now may the held-out seeds be read.
  release
  let selected ← Effect.read
  let heldOut ← search.heldOutPhase shortlist selected.cancelled
  let tested ← Effect.read
  let unseen ← search.unseenPhase shortlist heldOut.isSome tested.cancelled
  let final ← Effect.read
  pure
    { cancelled := final.cancelled
      complete := !final.cancelled && heldOut.isSome
      planned := search.planned
      used := final.runsUsed
      budgetExhausted := final.budgetExhausted
      rejected := final.rejected
      pareto := pareto
      shortlist := shortlist
      heldOut := heldOut
      unseen := unseen }

end Search
end UrbanFlow.Discovery
