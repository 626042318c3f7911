import UrbanFlow.Metering.PyValue
import UrbanFlow.Signals.FixedTime

/-!
# The metering plan builder

`build_metering_plan`: a plan from the raw configuration, or the message of the
`ValueError` it raises. A phase specification, a guard and a cap carry the
checks their constructors make.
-/

namespace UrbanFlow

/-- `MeteredPhaseSpec`: the entries a green releases and its durations. -/
@[ext]
structure MeteredPhaseSpec where
  entries : List Direction
  green : ℚ
  minGreen : ℚ
  maxGreen : ℚ
  entries_ne_nil : entries ≠ []
  minGreen_pos : 0 < minGreen
  minGreen_le_green : minGreen ≤ green
  green_le_maxGreen : green ≤ maxGreen

instance : DecidableEq MeteredPhaseSpec :=
  fun _ _ => decidable_of_iff _ MeteredPhaseSpec.ext_iff.symm

namespace MeteredPhaseSpec

theorem northSouth_ne_nil : [Direction.north, .south] ≠ [] := by decide

theorem eastWest_ne_nil : [Direction.east, .west] ≠ [] := by decide

theorem eightSeconds_pos : (0 : ℚ) < 8 := by decide

theorem green_pos (spec : MeteredPhaseSpec) : 0 < spec.green :=
  spec.minGreen_pos.trans_le spec.minGreen_le_green

/-- `__post_init__`. -/
def make (entries : List Direction)
    (green minGreen maxGreen : ℚ) : Except PyMessage MeteredPhaseSpec :=
  if present : entries = [] then .error [.text "MeteredPhaseSpec must have at least one entry"]
  else if green ≤ 0 then .error [.text "green duration must be positive, got ", .str (.float green)]
  else if minimum : minGreen ≤ 0 then
    .error [.text "min_green must be positive, got ", .str (.float minGreen)]
  else if maxGreen ≤ 0 then
    .error [.text "max_green must be positive, got ", .str (.float maxGreen)]
  else if maxGreen < minGreen then .error [.text "min_green (", .str (.float minGreen),
      .text ") cannot exceed max_green (", .str (.float maxGreen), .text ")"]
  else if low : green < minGreen then .error [.text "green (", .str (.float green),
      .text ") cannot be less than min_green (", .str (.float minGreen),
      .text ")"]
  else if high : maxGreen < green then .error [.text "green (", .str (.float green),
      .text ") cannot exceed max_green (", .str (.float maxGreen), .text ")"]
  else
    .ok { entries, green, minGreen, maxGreen
          entries_ne_nil := present
          minGreen_pos := not_le.mp minimum
          minGreen_le_green := not_lt.mp low
          green_le_maxGreen := not_lt.mp high }

end MeteredPhaseSpec

structure SpillbackGuardConfig where
  enabled : Bool := false
  stoppedThreshold : Int := 2
  maxHold : ℚ := 10
  stoppedThreshold_bounds : 1 ≤ stoppedThreshold ∧ stoppedThreshold ≤ 20 := by decide
  maxHold_bounds : 0 ≤ maxHold ∧ maxHold ≤ 60 := by decide
  deriving DecidableEq

/-- The guard as it is by default. -/
def SpillbackGuardConfig.plain : SpillbackGuardConfig := {}

/-- `SpillbackGuardConfig.__post_init__`. -/
def SpillbackGuardConfig.make (enabled : Bool) (stoppedThreshold : Int)
    (maxHold : ℚ) : Except PyMessage SpillbackGuardConfig :=
  if stopped : 1 ≤ stoppedThreshold ∧ stoppedThreshold ≤ 20 then
    if hold : 0 ≤ maxHold ∧ maxHold ≤ 60 then
      .ok ⟨enabled, stoppedThreshold, maxHold, stopped, hold⟩
    else .error [.text "max_hold must be in 0..60, got ", .str (.float maxHold)]
  else .error [.text "stopped_threshold must be in 1..20, got ", .count stoppedThreshold]

structure QueueCapConfig where
  enabled : Bool := false
  vehicles : Int := 8
  vehicles_bounds : 1 ≤ vehicles ∧ vehicles ≤ 50 := by decide
  deriving DecidableEq

/-- The cap as it is by default. -/
def QueueCapConfig.plain : QueueCapConfig := {}

/-- `QueueCapConfig.__post_init__`. -/
def QueueCapConfig.make (enabled : Bool) (vehicles : Int) : Except PyMessage QueueCapConfig :=
  if bounds : 1 ≤ vehicles ∧ vehicles ≤ 50 then .ok ⟨enabled, vehicles, bounds⟩
  else .error [.text "vehicles must be in 1..50, got ", .count vehicles]

structure EntryMeteringPlan where
  phases : List Phase
  specs : List MeteredPhaseSpec
  phaseToSpecIdx : List Nat
  meteredEntries : List Direction
  yellow : ℚ
  allRed : ℚ
  offset : ℚ
  cycleDuration : ℚ
  spillbackGuard : SpillbackGuardConfig
  queueCap : QueueCapConfig
  deriving DecidableEq

namespace EntryMeteringPlan

section

variable (plan : EntryMeteringPlan) (approach : Direction)

def plannedRedFor : ℚ := if approach ∈ plan.meteredEntries then
    ((plan.phases.filter (approach ∉ ·.directions)).map Phase.duration).sum
  else 0

end

end EntryMeteringPlan

namespace MeteringBuilder

section

variable (raw : PyValue)

def planNumber (name : PyMessage) : Except PyMessage ℚ := match raw.number with
  | some x => .ok x
  | none => .error (name ++ [.text " must be a finite number, got ", .repr raw])

def planFlag (name : String) : Except PyMessage Bool := match raw with
  | .bool value => .ok value
  | value => .error [.text (name ++ " must be true or false, got "), .repr value]

def planSection (cfg : Fields) (key : String) : Except PyMessage Fields := match cfg.get key with
  | .none => .ok []
  | .dict fields => .ok fields
  | value => .error [.text (key ++ " must be an object, got "), .typeName value]

def planInteger (name : String) : Except PyMessage Int := do
  let value ← planNumber raw [.text name]
  if value.den = 1 then .ok value.num
  else .error [.text (name ++ " must be a whole number, got "), .repr raw]

/-- A number with a default for an absent key, which must not be negative. -/
def planDuration (name noun : String) : Except PyMessage ℚ := do
  let value ← planNumber raw [.text name]
  if value < 0 then .error [.text (noun ++ " cannot be negative, got "), .str (.float value)]
  else .ok value

def parseDirection : Except PyMessage Direction := match raw.asDirection with
  | some direction => .ok direction
  | none => .error [.text "cannot parse ", .repr raw, .text " as Direction"]

end

/-- The entries of phase `index`, each once. -/
def planEntries (index : Nat) : List Direction → List PyValue → Except PyMessage (List Direction)
  | _, [] => .ok []
  | seen, entry :: entries => do
    let direction ← parseDirection entry
    if direction ∈ seen then
      .error [.text "duplicate entry '", .text direction.value, .text "' in phase ", .count index]
    else
      let others ← planEntries index (direction :: seen) entries
      .ok (direction :: others)

/-- A green bound under its key or its alias, else its default. -/
def planBound (phase : Fields) (index : Nat) (key other : String)
    (fallback : ℚ) : Except PyMessage ℚ :=
  let raw := phase.getAlias key other
  if raw.isNone then .ok fallback
  else planNumber raw [.text "phase ", .count index, .text (" " ++ key)]

/-- The specification of a phase that is an object. -/
def planPhaseSpec (index : Nat) (phase : Fields) : Except PyMessage MeteredPhaseSpec :=
  match (phase.get "entries").asSequence with
  | some (entry :: entries) => do
    let directions ← planEntries index [] (entry :: entries)
    let green ← planNumber ((phase.lookup "green").getD (.int 0))
      [.text "phase ", .count index, .text " green"]
    if green ≤ 0 then .error [.text "phase ", .count index,
        .text " green must be positive, got ", .str (.float green)]
    else
      let minGreen ← planBound phase index "minGreen" "min_green" (min green 8)
      let maxGreen ← planBound phase index "maxGreen" "max_green" (max green 40)
      MeteredPhaseSpec.make directions green minGreen maxGreen
  | _ => .error [.text "phase at index ", .count index, .text " must have non-empty entries list"]

/-- One pass of the loop over the phases. -/
def planSpec (index : Nat) : PyValue → Except PyMessage MeteredPhaseSpec
  | .dict phase => planPhaseSpec index phase
  | _ => .error [.text "phase at index ", .count index, .text " must be a dictionary"]

/-- The specifications of the phases, from phase `index` on. -/
def planSpecs : Nat → List PyValue → Except PyMessage (List MeteredPhaseSpec)
  | _, [] => .ok []
  | index, phase :: phases => do
    let spec ← planSpec index phase
    let specs ← planSpecs (index + 1) phases
    .ok (spec :: specs)

def allTurns : List TurnIntent := [.left, .straight, .right, .uturn]

/-- The phases one specification expands into. -/
def specPhases (yellow allRed : ℚ) (spec : MeteredPhaseSpec) : List Phase :=
  let stem := "_".intercalate (spec.entries.map Direction.value)
  [{ name := stem ++ "_green"
     directions := spec.entries
     allowedTurns := allTurns
     duration := spec.green
     color := .green }] ++
    (if 0 < yellow then
      [{ name := stem ++ "_yellow"
         directions := spec.entries
         allowedTurns := allTurns
         duration := yellow
         color := .yellow }]
    else []) ++
    (if 0 < allRed then
      [{ name := stem ++ "_all_red"
         directions := []
         allowedTurns := []
         duration := allRed
         color := .red }]
    else [])

/-- The plan of the values read. -/
def assemble (yellow allRed offset : ℚ) (specs : List MeteredPhaseSpec)
    (spillbackGuard : SpillbackGuardConfig) (queueCap : QueueCapConfig) : EntryMeteringPlan :=
  let phases := specs.flatMap (specPhases yellow allRed)
  { phases, specs, yellow, allRed, offset, spillbackGuard, queueCap
    phaseToSpecIdx := specs.zipIdx.flatMap fun (spec, index) =>
      (specPhases yellow allRed spec).map fun _ => index
    meteredEntries := (specs.flatMap MeteredPhaseSpec.entries).dedup
    cycleDuration := (phases.map Phase.duration).sum }

/-- The section the builder reads. -/
def meteringSection (config : Fields) : Fields := match (config.get "entryMetering").asDict with
  | some cfg => cfg
  | none =>
    ((config.get "controller").asDict.bind
      fun ctrl => (ctrl.get "entryMetering").asDict).getD config

section

variable (cfg : Fields)

/-- `yellow`, as the builder reads it. -/
def planYellow : Except PyMessage ℚ :=
  planDuration ((cfg.lookup "yellow").getD (.float 3)) "yellow" "yellow duration"

/-- `allRed`, as the builder reads it: the alias where the key is null. -/
def planAllRed : Except PyMessage ℚ :=
  let raw := cfg.get "allRed"
  planDuration (if raw.isNone then (cfg.lookup "all_red").getD (.float 2) else raw)
    "allRed" "allRed duration"

def planOffset : Except PyMessage ℚ :=
  planDuration ((cfg.lookup "offset").getD (.float 0)) "offset" "offset"

def planSpillbackGuard : Except PyMessage SpillbackGuardConfig := do
  let raw ← planSection cfg "spillbackGuard"
  let enabled ← planFlag ((raw.lookup "enabled").getD (.bool false)) "spillbackGuard.enabled"
  let stoppedThreshold ← planInteger ((raw.lookup "stoppedThreshold").getD (.int 2))
    "spillbackGuard.stoppedThreshold"
  let maxHold ← planNumber ((raw.lookup "maxHold").getD (.float 10))
    [.text "spillbackGuard.maxHold"]
  SpillbackGuardConfig.make enabled stoppedThreshold maxHold

def planQueueCap : Except PyMessage QueueCapConfig := do
  let raw ← planSection cfg "queueCap"
  let enabled ← planFlag ((raw.lookup "enabled").getD (.bool false)) "queueCap.enabled"
  let vehicles ← planInteger ((raw.lookup "vehicles").getD (.int 8)) "queueCap.vehicles"
  QueueCapConfig.make enabled vehicles

/-- The non-empty list of phases. -/
def planPhases : Except PyMessage (List PyValue) := match cfg.get "phases" with
  | .list (phase :: phases) => .ok (phase :: phases)
  | _ => .error [.text "entryMetering must define a non-empty list of phases"]

end

end MeteringBuilder

open MeteringBuilder

def buildMeteringPlan (config : Fields) : Except PyMessage EntryMeteringPlan := do
  let cfg := meteringSection config
  let phases ← planPhases cfg
  let yellow ← planYellow cfg
  let allRed ← planAllRed cfg
  let offset ← planOffset cfg
  let specs ← planSpecs 0 phases
  let spillbackGuard ← planSpillbackGuard cfg
  let queueCap ← planQueueCap cfg
  .ok (assemble yellow allRed offset specs spillbackGuard queueCap)

theorem planNumber_ok_iff {raw : PyValue} {name : PyMessage} {x : ℚ} :
    planNumber raw name = .ok x ↔ raw.number = some x := by
  unfold planNumber
  cases raw.number <;> simp

theorem planDuration_ok_iff {raw : PyValue} {name noun : String} {x : ℚ} :
    planDuration raw name noun = .ok x ↔ raw.number = some x ∧ 0 ≤ x := by
  simp only [planDuration, bind_ok_iff, planNumber_ok_iff]
  constructor
  · rintro ⟨value, number, checked⟩
    split at checked
    · exact nomatch checked
    · next nonnegative =>
        cases checked
        exact ⟨number, not_lt.mp nonnegative⟩
  · rintro ⟨number, nonnegative⟩
    exact ⟨x, number, if_neg (not_lt.mpr nonnegative)⟩

theorem planSpecs_length {index : Nat} {phases : List PyValue} {specs : List MeteredPhaseSpec}
    (read : planSpecs index phases = .ok specs) : specs.length = phases.length := by
  induction phases generalizing index specs with
  | nil =>
    cases read
    rfl
  | cons _ _ ih =>
    simp only [planSpecs, bind_ok_iff] at read
    obtain ⟨_, _, _, readOthers, isSpecs⟩ := read
    cases isSpecs
    rw [List.length_cons, List.length_cons, ih readOthers]

theorem planPhases_ne_nil {cfg : Fields} {phases : List PyValue}
    (read : planPhases cfg = .ok phases) : phases ≠ [] := by
  unfold planPhases at read
  split at read
  · cases read
    exact List.cons_ne_nil _ _
  · exact nomatch read

/-- A build succeeds when every reader does. -/
theorem build_ok_iff {config : Fields} {plan : EntryMeteringPlan} :
    buildMeteringPlan config = .ok plan ↔
      ∃ phases, planPhases (meteringSection config) = .ok phases ∧
      ∃ yellow, planYellow (meteringSection config) = .ok yellow ∧
      ∃ allRed, planAllRed (meteringSection config) = .ok allRed ∧
      ∃ offset, planOffset (meteringSection config) = .ok offset ∧
      ∃ specs, planSpecs 0 phases = .ok specs ∧
      ∃ guard, planSpillbackGuard (meteringSection config) = .ok guard ∧
      ∃ cap, planQueueCap (meteringSection config) = .ok cap ∧
        assemble yellow allRed offset specs guard cap = plan := by
  simp only [buildMeteringPlan, bind_ok_iff, Except.ok.injEq]

theorem specPhases_positive {yellow allRed : ℚ} {spec : MeteredPhaseSpec} {phase : Phase}
    (member : phase ∈ specPhases yellow allRed spec) : 0 < phase.duration := by
  simp only [specPhases, List.mem_append, List.mem_singleton] at member
  rcases member with (rfl | isYellow) | isAllRed
  · exact spec.green_pos
  · split at isYellow
    · next positive =>
        rw [List.mem_singleton.mp isYellow]
        exact positive
    · exact absurd isYellow List.not_mem_nil
  · split at isAllRed
    · next positive =>
        rw [List.mem_singleton.mp isAllRed]
        exact positive
    · exact absurd isAllRed List.not_mem_nil

end UrbanFlow
