import Mathlib
import UrbanFlow.Library.Dict

/-!
# The ingest store

The state of the ingest service: runs by their id, spread over shards, each with
running aggregates and the set of sequence numbers that it has seen. The
arithmetic of the doubles is exact; the infinities and the quiet NaN are kept. A
map whose iteration order nothing reads is a function of its keys, or a finite
map where its keys are counted.
-/

namespace UrbanFlow.Ingest

inductive Double
  | finite (value : ℚ)
  | infinite (negative : Bool)
  | nan
  deriving DecidableEq, Repr

namespace Double

/-- `+`. -/
def add : Double → Double → Double
  | finite first, finite second => finite (first + second)
  | finite _, infinite negative => infinite negative
  | infinite negative, finite _ => infinite negative
  | infinite first, infinite second => if first = second then infinite first else nan
  | nan, _ => nan
  | _, nan => nan

/-- `<`, which is false of NaN. -/
def less : Double → Double → Bool
  | finite first, finite second => first < second
  | finite _, infinite negative => ¬ negative
  | infinite negative, finite _ => negative
  | infinite first, infinite second => first && ¬ second
  | nan, _ => false
  | _, nan => false

/-- `/` by a positive count. -/
def divide : Double → Nat → Double
  | finite value, count => finite (value / count)
  | infinite negative, _ => infinite negative
  | nan, _ => nan

end Double

abbrev GoString : Type := List UInt8

structure Event where
  runId : GoString
  seq : Int
  simTime : Double
  metrics : GoString → Option Double

inductive Result
  | accepted
  | duplicate
  | rejected
  deriving DecidableEq, Repr

/-- `Validate`. -/
def Event.Valid (event : Event) : Prop :=
  ¬ (event.runId = [] ∨ event.seq < 0 ∨ event.simTime.less (.finite 0) = true)

instance decidableValid (event : Event) : Decidable event.Valid := by
  unfold Event.Valid
  infer_instance

structure MetricAcc where
  sum : Double := .finite 0
  n : Nat := 0
  deriving DecidableEq, Repr

structure Run where
  seen : Finset Int := ∅
  events : Nat := 0
  lastSeq : Int := -1
  firstSimTime : Double
  lastSimTime : Double
  metrics : GoString → Option MetricAcc := fun _ => none

structure Summary where
  runId : GoString
  found : Bool := false
  events : Nat := 0
  lastSeq : Int := 0
  firstSimTime : Double := .finite 0
  lastSimTime : Double := .finite 0
  metricMeans : GoString → Option Double := fun _ => none

namespace Run

/-- The run that the first event of an id creates. -/
def fresh (event : Event) : Run where
  firstSimTime := event.simTime
  lastSimTime := event.simTime

/-- The loop over the metrics of an event: each of its keys is visited once. -/
def addMetrics (metrics : GoString → Option MetricAcc)
    (added : GoString → Option Double) : GoString → Option MetricAcc :=
  fun key =>
    match added key with
    | none => metrics key
    | some value =>
      let acc := (metrics key).getD {}
      some { sum := acc.sum.add value, n := acc.n + 1 }

/-- What `Append` does to the aggregates when an event is received for the first
time. -/
def receive (run : Run) (event : Event) : Run where
  seen := insert event.seq run.seen
  events := run.events + 1
  lastSeq := if run.lastSeq < event.seq then event.seq else run.lastSeq
  firstSimTime := if event.simTime.less run.firstSimTime then event.simTime else run.firstSimTime
  lastSimTime := if run.lastSimTime.less event.simTime then event.simTime else run.lastSimTime
  metrics := addMetrics run.metrics event.metrics

def summary (run : Run) (runId : GoString) : Summary where
  runId := runId
  found := true
  events := run.events
  lastSeq := run.lastSeq
  firstSimTime := run.firstSimTime
  lastSimTime := run.lastSimTime
  metricMeans := fun key => (run.metrics key).map fun acc => acc.sum.divide acc.n

end Run

/-- `hash/fnv`: the 32-bit FNV-1a hash. -/
def fnv32a (bytes : GoString) : UInt32 :=
  bytes.foldl (fun hash byte => (hash ^^^ byte.toUInt32) * 16777619) 2166136261

/-- `Store`: the runs of each shard. -/
structure Store where
  shards : List (Dict GoString Run)

namespace Store

def new (shards : Int) : Store where
  shards := List.replicate (if shards < 1 then 1 else shards.toNat) ∅

section

variable (store : Store)

/-- `shardFor`: the number of shards is converted to 32 bits, and a division by
zero panics. -/
def shardFor (runId : GoString) : Option Nat :=
  let count := store.shards.length % 2 ^ 32
  if count = 0 then none else some ((fnv32a runId).toNat % count)

/-- The runs of a shard. -/
def shard (index : Nat) : Dict GoString Run := store.shards[index]?.getD ∅

def put (index : Nat) (runId : GoString) (run : Run) : Store where
  shards := store.shards.set index ((store.shard index).insert runId run)

/-- `Append`; `none` stands for a panic, and for an event there may be a nil
pointer. -/
def append (event : Option Event) : Option (Store × Result) := match event with
  | none => some (store, .rejected)
  | some event =>
    if ¬ event.Valid then some (store, .rejected)
    else match store.shardFor event.runId with
      | none => none
      | some index =>
        let runs := store.shard index
        match runs.lookup event.runId with
        | none =>
          -- A run that has just been created has seen nothing.
          some (store.put index event.runId ((Run.fresh event).receive event), .accepted)
        | some run =>
          if event.seq ∈ run.seen then some (store, .duplicate)
          else some (store.put index event.runId (run.receive event), .accepted)

end

/-- Some calls of `Append`, one after another, and what they return. -/
def appendAll (store : Store) : List (Option Event) → Option (Store × List Result)
  | [] => some (store, [])
  | event :: rest =>
    match store.append event with
    | none => none
    | some (next, result) =>
      (next.appendAll rest).map fun (last, results) => (last, result :: results)

def summary (store : Store) (runId : GoString) : Option Summary := match store.shardFor runId with
  | none => none
  | some index =>
    match (store.shard index).lookup runId with
    | none => some { runId := runId }
    | some run => some (run.summary runId)

/-- `Stats`: the number of runs and of stored events. -/
def stats (store : Store) : Nat × Nat :=
  ((store.shards.map fun runs => runs.keys.card).sum, (store.shards.map fun runs =>
      ∑ runId ∈ runs.keys, ((runs.lookup runId).map Run.events).getD 0).sum)

end Store
end UrbanFlow.Ingest
