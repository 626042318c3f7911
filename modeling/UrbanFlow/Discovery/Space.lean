import Mathlib.Tactic.FinCases
import UrbanFlow.Core.Rounding

/-!
# The search space

Genomes hold a strategy and every tunable parameter; the operators draw from a
random generator and clamp what they make into the declared bounds. A genome is
identified by the parameters its strategy uses. What is clamped is within the bounds,
with a cycle of 40 to 120 s, and is not changed by clamping it once more.
-/

namespace UrbanFlow.Discovery

/-- A `random.Random`: what its draws would give, by their number. -/
structure Rng where
  randomAt : Nat → ℚ
  gaussAt : Nat → ℚ
  belowAt : Nat → Nat → Nat
  belowAt_lt : ∀ draw bound, 0 < bound → belowAt draw bound < bound

/-- A computation that draws; its state is the number of draws made. -/
abbrev Drawing (Value : Type) : Type := StateM Nat Value

namespace Rng

variable (rng : Rng)

def draw {Value : Type} (read : Nat → Value) : Drawing Value := fun drawn => (read drawn, drawn + 1)

def random : Drawing ℚ := draw rng.randomAt

def uniform (low high : ℚ) : Drawing ℚ := do
  return low + (high - low) * (← rng.random)

def gauss (mu sigma : ℚ) : Drawing ℚ := do
  return mu + sigma * (← draw rng.gaussAt)

def randrange (bound : Nat) : Drawing Nat := draw fun drawn => rng.belowAt drawn bound

/-- `choice`, of a list that is not empty. -/
def choice {Value : Type} (fallback : Value) (values : List Value) : Drawing Value := do
  return values.getD (← rng.randrange values.length) fallback

end Rng

inductive Strategy
  | fixedTime
  | adaptive
  | roundabout
  | signalisedRoundabout
  deriving DecidableEq, Repr

def Strategy.name : Strategy → String
  | fixedTime => "fixed_time"
  | adaptive => "adaptive"
  | roundabout => "roundabout"
  | signalisedRoundabout => "signalised_roundabout"

/-- The keys of `BOUNDS`. -/
inductive Gene
  | nsGreen
  | ewGreen
  | yellow
  | allRed
  | minGreen
  | maxGreen
  | extensionStep
  | meterGreenNS
  | meterGreenEW
  | spillbackThreshold
  | spillbackMaxHold
  | ringLanes
  deriving DecidableEq, Repr

namespace Gene

/-- The genes in the order of `BOUNDS`. -/
def all : List Gene := [nsGreen, ewGreen, yellow, allRed, minGreen, maxGreen, extensionStep,
    meterGreenNS, meterGreenEW, spillbackThreshold, spillbackMaxHold, ringLanes]

def bounds : Gene → ℚ × ℚ
  | nsGreen => (10, 60)
  | ewGreen => (10, 60)
  | yellow => (3, 5)
  | allRed => (1, 3)
  | minGreen => (5, 20)
  | maxGreen => (25, 90)
  | extensionStep => (1, 5)
  | meterGreenNS => (10, 40)
  | meterGreenEW => (10, 40)
  | spillbackThreshold => (1, 6)
  | spillbackMaxHold => (0, 20)
  | ringLanes => (1, 2)

/-- `INTEGER_KEYS`. -/
def IsInteger (gene : Gene) : Prop := gene = spillbackThreshold ∨ gene = ringLanes

instance : DecidablePred IsInteger := fun gene => inferInstanceAs (Decidable (gene = _ ∨ gene = _))

/-- A value clamped into the bounds of its gene and rounded. -/
def clampValue (gene : Gene) (value : ℚ) : ℚ :=
  let inside := min gene.bounds.2 (max gene.bounds.1 value)
  if gene.IsInteger then roundHalfEven inside else pyRound inside 2

end Gene

structure Genome where
  strategy : Strategy
  value : Gene → ℚ
  spillbackGuard : Bool

namespace Genome

def set (gene : Gene) (value : ℚ) (genome : Genome) : Genome :=
  { genome with value := Function.update genome.value gene value }

def maxCycle : ℚ := 120

def minCycle : ℚ := 40

section

variable (genome : Genome)

/-- The seconds of a cycle that no approach has green. -/
def lost : ℚ := 2 * (genome.value .yellow + genome.value .allRed)

/-- The maximum green is kept 5 s above the minimum. -/
def widenGreen : Genome := if genome.value .maxGreen < genome.value .minGreen + 5 then
    genome.set .maxGreen (pyRound (min (Gene.bounds .maxGreen).2 (genome.value .minGreen + 5)) 2)
  else genome

/-- The cycle is kept within 40 and 120 s. -/
def fitCycle : Genome :=
  let greens := genome.value .nsGreen + genome.value .ewGreen
  let cycle := greens + genome.lost
  if maxCycle < cycle then
    let scale := (maxCycle - genome.lost) / greens
    (genome.set .nsGreen (pyRound (max (Gene.bounds .nsGreen).1
        (genome.value .nsGreen * scale)) 2)).set .ewGreen
      (pyRound (max (Gene.bounds .ewGreen).1 (genome.value .ewGreen * scale)) 2)
  else if cycle < minCycle then
    let extra := (minCycle - cycle) / 2
    (genome.set .nsGreen (pyRound (genome.value .nsGreen + extra) 2)).set
      .ewGreen (pyRound (genome.value .ewGreen + extra) 2)
  else genome

def clamp : Genome :=
  ({ genome with
      value := fun gene =>
        gene.clampValue (genome.value gene) }.widenGreen).fitCycle

end

/-- `random_genome`. -/
def random (rng : Rng) (strategies : List Strategy) : Drawing Genome := do
  let strategy ← rng.choice .fixedTime strategies
  let value ← Gene.all.foldlM (fun value gene => do
    let drawn ← rng.uniform gene.bounds.1 gene.bounds.2
    return Function.update value gene drawn) (fun _ => 0)
  let guard ← rng.random
  return clamp ⟨strategy, value, decide (guard < 1 / 2)⟩

def crossover (rng : Rng) (a b : Genome) : Drawing Genome := do
  let side ← rng.random
  let value ← Gene.all.foldlM (fun value gene => do
    let side ← rng.random
    return Function.update value gene
      (if side < 1 / 2 then a.value gene else b.value gene)) (fun _ => 0)
  let guard ← rng.random
  return clamp
    { strategy := if side < 1 / 2 then a.strategy else b.strategy
      value := value
      spillbackGuard :=
        if guard < 1 / 2 then a.spillbackGuard else b.spillbackGuard }

/-- The default `rate` of `mutate`. -/
def mutationRate : ℚ := 1 / 4

def mutate (rng : Rng) (genome : Genome) (strategies : List Strategy) : Drawing Genome := do
  let switches ← rng.random
  let strategy ← if switches < mutationRate / 2 ∧ 1 < strategies.length then
      rng.choice genome.strategy (strategies.filter (· ≠ genome.strategy))
    else pure genome.strategy
  let value ← Gene.all.foldlM (fun value gene => do
    let changes ← rng.random
    if changes < mutationRate then
      let step ← rng.gauss 0 ((gene.bounds.2 - gene.bounds.1) * (15 / 100))
      return Function.update value gene (value gene + step)
    else return value) genome.value
  let flips ← rng.random
  return clamp
    { strategy := strategy
      value := value
      spillbackGuard := if flips < mutationRate / 2 then !genome.spillbackGuard
        else genome.spillbackGuard }

/-- The genes that a strategy uses. -/
def usedGenes (genome : Genome) : List Gene := match genome.strategy with
  | .fixedTime => [.nsGreen, .ewGreen, .yellow, .allRed]
  | .adaptive => [.nsGreen, .ewGreen, .yellow, .allRed, .minGreen, .maxGreen, .extensionStep]
  | .roundabout => [.ringLanes]
  | .signalisedRoundabout =>
    [.ringLanes, .meterGreenNS, .meterGreenEW, .yellow, .allRed] ++
      if genome.spillbackGuard then [.spillbackThreshold, .spillbackMaxHold]
      else []

/-- `relevant`: the parameters that a genome's strategy uses. -/
structure Relevant where
  strategy : Strategy
  genes : List (Gene × ℚ)
  spillbackGuard : Option Bool

def relevant (genome : Genome) : Relevant where
  strategy := genome.strategy
  genes := genome.usedGenes.map fun gene => (gene, genome.value gene)
  spillbackGuard := match genome.strategy with
    | .signalisedRoundabout => some genome.spillbackGuard
    | _ => none

end Genome

/-- A genome as it is given to `clamp`, in which parameters may be missing. -/
structure GivenGenome where
  strategy : Strategy
  value : Gene → Option ℚ
  spillbackGuard : Option Bool

namespace GivenGenome

/-- A genome with a value for each parameter: the middle of its bounds where none is
given. -/
def filled (given : GivenGenome) : Genome where
  strategy := given.strategy
  value gene := (given.value gene).getD ((gene.bounds.1 + gene.bounds.2) / 2)
  spillbackGuard := given.spillbackGuard.getD false

/-- `clamp`, of what is given. -/
def clamp (given : GivenGenome) : Genome := given.filled.clamp

def ofGenome (genome : Genome) : GivenGenome where
  strategy := genome.strategy
  value gene := some (genome.value gene)
  spillbackGuard := some genome.spillbackGuard

end GivenGenome

namespace Gene

section

variable (gene : Gene)

/-- The decimals that the values of a gene have. -/
def digits : Nat := if gene.IsInteger then 0 else 2

theorem clampValue_eq (value : ℚ) : gene.clampValue value =
      pyRound (min gene.bounds.2 (max gene.bounds.1 value)) gene.digits := by
  unfold clampValue digits
  dsimp only
  split_ifs
  · simp [pyRound]
  · rfl

theorem bounds_decimal (digits : Nat) :
    IsDecimal digits gene.bounds.1 ∧ IsDecimal digits gene.bounds.2 := by
  have integers : ∃ low high : ℤ, gene.bounds = ((low : ℚ), (high : ℚ)) := by
    cases gene
    · exact ⟨10, 60, rfl⟩
    · exact ⟨10, 60, rfl⟩
    · exact ⟨3, 5, rfl⟩
    · exact ⟨1, 3, rfl⟩
    · exact ⟨5, 20, rfl⟩
    · exact ⟨25, 90, rfl⟩
    · exact ⟨1, 5, rfl⟩
    · exact ⟨10, 40, rfl⟩
    · exact ⟨10, 40, rfl⟩
    · exact ⟨1, 6, rfl⟩
    · exact ⟨0, 20, rfl⟩
    · exact ⟨1, 2, rfl⟩
  obtain ⟨low, high, isBounds⟩ := integers
  rw [isBounds]
  exact ⟨isDecimal_intCast low digits, isDecimal_intCast high digits⟩

theorem bounds_le : gene.bounds.1 ≤ gene.bounds.2 := by cases gene <;> norm_num [bounds]

end

structure Accepts (gene : Gene) (value : ℚ) : Prop where
  low_le : gene.bounds.1 ≤ value
  le_high : value ≤ gene.bounds.2
  isDecimal : IsDecimal gene.digits value

theorem accepts_pyRound {gene : Gene} {value : ℚ} (low_le : gene.bounds.1 ≤ value)
    (le_high : value ≤ gene.bounds.2) : gene.Accepts (pyRound value gene.digits) := by
  have decimals := gene.bounds_decimal gene.digits
  have inside := pyRound_mem decimals.1 decimals.2 low_le le_high
  exact ⟨inside.1, inside.2, isDecimal_pyRound value gene.digits⟩

theorem accepts_clampValue (gene : Gene) (value : ℚ) : gene.Accepts (gene.clampValue value) := by
  rw [clampValue_eq]
  exact accepts_pyRound (le_min gene.bounds_le (le_max_left _ _)) (min_le_left _ _)

theorem Accepts.clampValue {gene : Gene} {value : ℚ} (accepts : gene.Accepts value) :
    gene.clampValue value = value := by
  rw [clampValue_eq, max_eq_right accepts.low_le, min_eq_right accepts.le_high]
  exact accepts.isDecimal.pyRound

end Gene

namespace Genome

/-- The seconds of the fixed-time cycle. -/
def cycle (genome : Genome) : ℚ :=
  genome.value .nsGreen + genome.value .ewGreen + 2 * (genome.value .yellow + genome.value .allRed)

/-- Every parameter is within its bounds, the maximum green is 5 s or more above the
minimum, and the cycle takes 40 to 120 s. -/
structure WithinBounds (genome : Genome) : Prop where
  bounds : ∀ gene : Gene, gene.bounds.1 ≤ genome.value gene ∧ genome.value gene ≤ gene.bounds.2
  greens : genome.value .minGreen + 5 ≤ genome.value .maxGreen
  cycle : 40 ≤ genome.cycle ∧ genome.cycle ≤ 120

/-- A genome that clamping does not change. -/
structure Settled (genome : Genome) : Prop where
  accepts : ∀ gene : Gene, gene.Accepts (genome.value gene)
  cycle : 40 ≤ genome.cycle ∧ genome.cycle ≤ 120

/-- The maximum green is far enough above the minimum by the bounds of both. -/
theorem greens_of_accepts {genome : Genome}
    (accepts : ∀ gene : Gene, gene.Accepts (genome.value gene)) :
    genome.value .minGreen + 5 ≤ genome.value .maxGreen := by
  have isMin : genome.value .minGreen ≤ 20 := (accepts .minGreen).le_high
  have isMax : 25 ≤ genome.value .maxGreen := (accepts .maxGreen).low_le
  linarith

theorem Settled.withinBounds {genome : Genome} (settled : genome.Settled) :
    genome.WithinBounds where
  bounds gene := ⟨(settled.accepts gene).low_le, (settled.accepts gene).le_high⟩
  greens := greens_of_accepts settled.accepts
  cycle := settled.cycle

section

variable {genome : Genome} (accepts : ∀ gene : Gene, gene.Accepts (genome.value gene))

include accepts

theorem widenGreen_of_accepts : genome.widenGreen = genome := by
  unfold widenGreen
  exact if_neg (not_lt.mpr (greens_of_accepts accepts))

/-- The seconds without green are an even number of hundredths. -/
theorem lost_even : ∃ half : ℤ, genome.lost = (half + half : ℤ) / 10 ^ 2 := by
  obtain ⟨yellow, isYellow⟩ : IsDecimal 2 (genome.value .yellow) := (accepts .yellow).isDecimal
  obtain ⟨allRed, isAllRed⟩ : IsDecimal 2 (genome.value .allRed) := (accepts .allRed).isDecimal
  refine ⟨yellow + allRed, ?_⟩
  rw [lost, isYellow, isAllRed]
  push_cast
  ring

/-- New greens within the bounds that leave a whole even number of seconds for the
cycle settle the genome. -/
theorem settled_of_greens {ns ew : ℚ} {target : ℤ}
    (isSum : ns + ew + genome.lost = (target + target : ℤ)) (isNs : 10 ≤ ns ∧ ns ≤ 60)
    (isEw : 10 ≤ ew ∧ ew ≤ 60) (isTarget : (20 : ℚ) ≤ target ∧ (target : ℚ) ≤ 60) :
    ((genome.set .nsGreen (pyRound ns 2)).set .ewGreen (pyRound ew 2)).Settled := by
  obtain ⟨half, isLost⟩ := lost_even accepts
  have isWhole : ns + ew = ((target * 100 - half + (target * 100 - half) : ℤ) : ℚ) / 10 ^ 2 := by
    push_cast at isSum isLost ⊢
    linarith
  have rounded := pyRound_add_of_even isWhole ⟨_, rfl⟩
  constructor
  · intro gene
    by_cases isEwGreen : gene = .ewGreen
    · subst isEwGreen
      simpa [set, Gene.digits, Gene.IsInteger] using @Gene.accepts_pyRound .ewGreen ew isEw.1 isEw.2
    · by_cases isNsGreen : gene = .nsGreen
      · subst isNsGreen
        simpa [set, Gene.digits, Gene.IsInteger] using
          @Gene.accepts_pyRound .nsGreen ns isNs.1 isNs.2
      · simpa [set, isEwGreen, isNsGreen] using accepts gene
  · have isCycle : ((genome.set .nsGreen (pyRound ns 2)).set .ewGreen (pyRound ew 2)).cycle =
        pyRound ns 2 + pyRound ew 2 + genome.lost := by
      simp [cycle, set, lost]
    push_cast at isSum
    rw [isCycle, rounded, isSum]
    constructor <;> linarith

theorem settled_fitCycle : genome.fitCycle.Settled := by
  have nsLow : 10 ≤ genome.value .nsGreen := (accepts .nsGreen).low_le
  have nsHigh : genome.value .nsGreen ≤ 60 := (accepts .nsGreen).le_high
  have ewLow : 10 ≤ genome.value .ewGreen := (accepts .ewGreen).low_le
  have ewHigh : genome.value .ewGreen ≤ 60 := (accepts .ewGreen).le_high
  have lostBounds : 8 ≤ genome.lost ∧ genome.lost ≤ 16 := by
    have yellowLow : 3 ≤ genome.value .yellow := (accepts .yellow).low_le
    have yellowHigh : genome.value .yellow ≤ 5 := (accepts .yellow).le_high
    have allRedLow : 1 ≤ genome.value .allRed := (accepts .allRed).low_le
    have allRedHigh : genome.value .allRed ≤ 3 := (accepts .allRed).le_high
    unfold lost
    constructor <;> linarith
  dsimp only [fitCycle]
  split_ifs with isLong isShort
  · -- Both greens are above the floor when the cycle is too long.
    rw [maxCycle] at isLong
    set greens := genome.value .nsGreen + genome.value .ewGreen with isGreens
    have greensPos : 0 < greens := by linarith
    set scale := (maxCycle - genome.lost) / greens with isScale
    have scaled : scale * greens = 120 - genome.lost := div_mul_cancel₀ _ greensPos.ne'
    have scaleLow : 1 / 2 ≤ scale := by
      rw [isScale, le_div_iff₀ greensPos, maxCycle]
      linarith
    have scaleHigh : scale ≤ 1 := by
      rw [isScale, div_le_one₀ greensPos, maxCycle]
      linarith
    have insideGreens : ∀ green : ℚ, 44 ≤ green → green ≤ 60 →
        10 ≤ green * scale ∧ green * scale ≤ 60 := by
      intro green isLow isHigh
      constructor <;> nlinarith
    have isNs := insideGreens _ (by linarith : 44 ≤ genome.value .nsGreen) nsHigh
    have isEw := insideGreens _ (by linarith : 44 ≤ genome.value .ewGreen) ewHigh
    have nsFloor : max (Gene.bounds .nsGreen).1 (genome.value .nsGreen * scale) =
        genome.value .nsGreen * scale := max_eq_right isNs.1
    have ewFloor : max (Gene.bounds .ewGreen).1 (genome.value .ewGreen * scale) =
        genome.value .ewGreen * scale := max_eq_right isEw.1
    rw [nsFloor, ewFloor]
    apply @settled_of_greens genome accepts _ _ 60 _ isNs isEw (by norm_num)
    have isSum : genome.value .nsGreen * scale + genome.value .ewGreen * scale =
        scale * greens := by
      rw [isGreens]
      ring
    rw [isSum, scaled]
    norm_num
  · rw [minCycle] at isShort ⊢
    apply @settled_of_greens genome accepts _ _ 20 _ _ _ (by norm_num)
    · push_cast
      ring
    · constructor <;> linarith
    · constructor <;> linarith
  · exact ⟨accepts, ⟨by simpa [cycle, lost, minCycle] using isShort,
      by simpa [cycle, lost, maxCycle] using isLong⟩⟩

end

theorem settled_clamp (genome : Genome) : genome.clamp.Settled := by
  have accepts : ∀ gene : Gene, gene.Accepts (gene.clampValue (genome.value gene)) :=
    fun gene => gene.accepts_clampValue (genome.value gene)
  have unwidened := @widenGreen_of_accepts
    ⟨genome.strategy, fun gene => gene.clampValue (genome.value gene),
      genome.spillbackGuard⟩ accepts
  unfold clamp
  rw [unwidened]
  exact settled_fitCycle accepts

theorem Settled.clamp {genome : Genome} (settled : genome.Settled) : genome.clamp = genome := by
  have same : { genome with
      value := fun gene => gene.clampValue (genome.value gene) } = genome := by
    cases genome with
    | mk =>
      congr 1
      funext gene
      exact (settled.accepts gene).clampValue
  obtain ⟨notShort, notLong⟩ := settled.cycle
  unfold Genome.cycle at notShort notLong
  unfold Genome.clamp
  rw [same, widenGreen_of_accepts settled.accepts]
  unfold fitCycle lost maxCycle minCycle
  dsimp only
  rw [if_neg (not_lt.mpr notLong), if_neg (not_lt.mpr notShort)]

/-- Every value that a computation draws has a property. -/
def Draws {Value : Type} (drawing : Drawing Value) (holds : Value → Prop) : Prop :=
  ∀ drawn, holds (drawing drawn).1

theorem Draws.give {Value : Type} {holds : Value → Prop} {value : Value} (isValue : holds value) :
    Draws (pure value) holds :=
  fun _ => isValue

/-- What comes last decides. -/
theorem Draws.bind {Value Other : Type} {first : Drawing Value} {next : Value → Drawing Other}
    {holds : Other → Prop} (ofNext : ∀ value, Draws (next value) holds) :
    Draws (first >>= next) holds :=
  fun drawn => ofNext (first drawn).1 (first drawn).2

theorem random_settled (rng : Rng) (strategies : List Strategy) :
    Draws (random rng strategies) Settled := by
  refine Draws.bind fun strategy => Draws.bind fun value => Draws.bind fun guard => ?_
  exact Draws.give (settled_clamp _)

theorem crossover_settled (rng : Rng) (a b : Genome) : Draws (crossover rng a b) Settled := by
  refine Draws.bind fun side => Draws.bind fun value => Draws.bind fun guard => ?_
  exact Draws.give (settled_clamp _)

theorem mutate_settled (rng : Rng) (genome : Genome) (strategies : List Strategy) :
    Draws (mutate rng genome strategies) Settled := by
  refine Draws.bind fun switches => ?_
  dsimp only
  split_ifs
  · refine Draws.bind fun strategy => Draws.bind fun value => Draws.bind fun flips => ?_
    exact Draws.give (settled_clamp _)
  · refine Draws.bind fun strategy => Draws.bind fun value => Draws.bind fun flips => ?_
    exact Draws.give (settled_clamp _)

/-- What `clamp` makes of any genome is within the bounds, and is not changed by
clamping it again; and so is everything that the operators make. -/
theorem clamp_withinBounds_idempotent : (∀ given : GivenGenome, given.clamp.WithinBounds ∧
        (GivenGenome.ofGenome given.clamp).clamp = given.clamp) ∧
      (∀ rng strategies, Draws (random rng strategies) WithinBounds) ∧
      (∀ rng a b, Draws (crossover rng a b) WithinBounds) ∧
      ∀ rng genome strategies, Draws (mutate rng genome strategies) WithinBounds := by
  refine ⟨fun given => ?_, fun rng strategies drawn => ?_, fun rng a b drawn => ?_,
    fun rng genome strategies drawn => ?_⟩
  · have settled := settled_clamp given.filled
    exact ⟨settled.withinBounds, settled.clamp⟩
  · exact (random_settled rng strategies drawn).withinBounds
  · exact (crossover_settled rng a b drawn).withinBounds
  · exact (mutate_settled rng genome strategies drawn).withinBounds

end Genome
end UrbanFlow.Discovery
