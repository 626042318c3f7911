import Mathlib.Data.List.Induction
import UrbanFlow.Simulations.Registry

/-!
# What the simulation registry keeps

Whatever is registered and whatever the engines do, the registry stays within its bound
and evicts only finished simulations, the oldest of them first. A refusal finds every
slot running or paused unless a simulation there was never started, and a finished run
is recorded unless the simulation finished before.
-/

namespace UrbanFlow
namespace SimulationsDb

instance createdBefore_total : Std.Total CreatedBefore where
  total first second := le_total first.2.createdAt second.2.createdAt

instance createdBefore_trans : IsTrans (String × RegisteredSimulation) CreatedBefore where
  trans _ _ _ earlier later := le_trans earlier later

@[simp] theorem mem_evictable {db : SimulationsDb} {entry : String × RegisteredSimulation} :
    entry ∈ db.evictable ↔ entry ∈ db ∧ entry.2.status.Finished := by
  simp [evictable]

theorem evictable_sorted (db : SimulationsDb) : db.evictable.Pairwise CreatedBefore :=
  List.pairwise_insertionSort CreatedBefore _

section

variable {db : SimulationsDb}

theorem evictableKeys_nodup (distinct : db.keys.Nodup) : (db.evictable.map Prod.fst).Nodup := by
  have sorted := (List.perm_insertionSort CreatedBefore
    (db.filter fun entry => entry.2.status.Finished)).map Prod.fst
  have fewer : ((db.filter fun entry => entry.2.status.Finished).map Prod.fst).Nodup :=
    (List.filter_sublist.map Prod.fst).nodup distinct
  exact sorted.nodup_iff.mpr fewer

theorem entry_eq {first second : String × RegisteredSimulation} (distinct : db.keys.Nodup)
    (firstHeld : first ∈ db) (secondHeld : second ∈ db)
    (sameKey : first.1 = second.1) : first = second :=
  List.inj_on_of_nodup_map distinct firstHeld secondHeld sameKey

theorem evicted_nodup (distinct : db.keys.Nodup) : db.evicted.Nodup :=
  ((List.take_sublist _ _).map Prod.fst).nodup (evictableKeys_nodup distinct)

end

theorem evicted_subset (db : SimulationsDb) : db.evicted ⊆ db.map Prod.fst := by
  intro key victim
  obtain ⟨entry, isTaken, rfl⟩ := List.mem_map.mp victim
  exact List.mem_map_of_mem (mem_evictable.mp (List.mem_of_mem_take isTaken)).1

/-- An entry is evicted where it is among the first that may be. -/
theorem mem_evicted {db : SimulationsDb} {entry : String × RegisteredSimulation}
    (distinct : db.keys.Nodup) (held : entry ∈ db) : entry.1 ∈ db.evicted ↔
      entry ∈ db.evictable.take (db.length - maxConcurrentSimulations + 1) := by
  constructor
  · intro victim
    obtain ⟨other, isTaken, sameKey⟩ := List.mem_map.mp victim
    have otherHeld := (mem_evictable.mp (List.mem_of_mem_take isTaken)).1
    rw [entry_eq distinct held otherHeld sameKey.symm]
    exact isTaken
  · intro isTaken
    exact List.mem_map_of_mem isTaken

/-- What an eviction leaves: the entries it does not evict, all of them finished and none
created after a finished one that stays. -/
structure Evicted (before after : SimulationsDb) : Prop where
  sublist : after.Sublist before
  finished : ∀ gone ∈ before, gone ∉ after → gone.2.status.Finished
  oldest : ∀ gone ∈ before, gone ∉ after → ∀ stays ∈ after,
    stays.2.status.Finished → gone.2.createdAt ≤ stays.2.createdAt

section

variable {db : SimulationsDb} (distinct : db.keys.Nodup)

include distinct

theorem evictCompletedSimulations_evicted : Evicted db db.evictCompletedSimulations := by
  unfold evictCompletedSimulations
  by_cases fits : db.length < maxConcurrentSimulations
  · rw [if_pos fits]
    exact ⟨List.Sublist.refl _, fun gone held dropped => absurd held dropped,
      fun gone held dropped => absurd held dropped⟩
  · rw [if_neg fits]
    have victim : ∀ gone ∈ db, gone ∉ Eviction.without Prod.fst db.evicted db →
        gone ∈ db.evictable.take (db.length - maxConcurrentSimulations + 1) := by
      intro gone held dropped
      rw [Eviction.mem_without, not_and, not_not] at dropped
      exact (mem_evicted distinct held).mp (dropped held)
    refine ⟨Eviction.without_sublist .., fun gone held dropped => ?_,
      fun gone held dropped stays kept isFinished => ?_⟩
    · exact (mem_evictable.mp (List.mem_of_mem_take (victim gone held dropped))).2
    · obtain ⟨staysHeld, spared⟩ := Eviction.mem_without.mp kept
      have order : CreatedBefore gone stays :=
        Eviction.relation_of_take (evictable_sorted db) (victim gone held dropped)
          (mem_evictable.mpr ⟨staysHeld, isFinished⟩)
          fun isTaken => spared ((mem_evicted distinct staysHeld).mpr isTaken)
      exact order

/-- An eviction frees a slot of a registry within its bound, unless none is finished. -/
theorem evictCompletedSimulations_full (bounded : db.length ≤ maxConcurrentSimulations) :
    maxConcurrentSimulations ≤ db.evictCompletedSimulations.length ↔
      maxConcurrentSimulations ≤ db.length ∧ ∀ entry ∈ db, ¬ entry.2.status.Finished := by
  unfold evictCompletedSimulations
  by_cases fits : db.length < maxConcurrentSimulations
  · rw [if_pos fits]
    omega
  · rw [if_neg fits]
    have left := Eviction.length_without distinct (evicted_nodup distinct) (evicted_subset db)
    have victims : db.evicted.length = min 1 db.evictable.length := by
      have isFull : db.length - maxConcurrentSimulations = 0 := by omega
      simp [evicted, isFull]
    have none_iff : db.evictable.length = 0 ↔ ∀ entry ∈ db, ¬ entry.2.status.Finished := by
      rw [List.length_eq_zero_iff, List.eq_nil_iff_forall_not_mem]
      constructor
      · exact fun isEmpty entry held isFinished =>
          isEmpty entry (mem_evictable.mpr ⟨held, isFinished⟩)
      · exact fun unfinished entry held =>
          unfinished entry (mem_evictable.mp held).1 (mem_evictable.mp held).2
    rw [← none_iff]
    omega

end

section

variable (simId : String) (update : RegisteredSimulation → RegisteredSimulation)
  (db : SimulationsDb)

@[simp] theorem keys_change : (db.change simId update).keys = db.keys := by
  unfold keys change
  rw [List.map_map]
  apply List.map_congr_left
  intro entry _
  dsimp only [Function.comp]
  split <;> rfl

end

theorem insert_of_not_mem {simId : String} {db : SimulationsDb} (isNew : simId ∉ db.keys)
    (entry : RegisteredSimulation) : db.insert simId entry = db ++ [(simId, entry)] := by
  rw [insert, if_neg isNew]

end SimulationsDb

namespace SimulationRegistry

open SimulationsDb

variable {uuid4 : Nat → String}

/-- The identifiers of the dictionary are distinct and have been drawn, and it is within
its bound. -/
structure Consistent (uuid4 : Nat → String) (registry : SimulationRegistry) : Prop where
  distinct : registry.simulationsDb.keys.Nodup
  drawn : ∀ key ∈ registry.simulationsDb.keys, ∃ n, n < registry.drawn ∧ key = uuid4 n
  bounded : registry.simulationsDb.length ≤ maxConcurrentSimulations

/-- Only keys and the draws matter. -/
theorem Consistent.of_keys {before after : SimulationRegistry}
    (consistent : before.Consistent uuid4)
    (sublist : after.simulationsDb.keys.Sublist before.simulationsDb.keys)
    (later : before.drawn ≤ after.drawn) : after.Consistent uuid4 := by
  have isShort := sublist.length_le
  unfold keys at isShort
  rw [List.length_map, List.length_map] at isShort
  refine ⟨sublist.nodup consistent.distinct, fun key held => ?_, isShort.trans consistent.bounded⟩
  obtain ⟨n, isDrawn, same⟩ := consistent.drawn key (sublist.subset held)
  exact ⟨n, isDrawn.trans_le later, same⟩

/-- The next identifier is a new one. -/
theorem Consistent.isNew (distinct : Function.Injective uuid4) {registry : SimulationRegistry}
    (consistent : registry.Consistent uuid4) :
    uuid4 registry.drawn ∉ registry.simulationsDb.keys := by
  intro held
  obtain ⟨n, isDrawn, same⟩ := consistent.drawn _ held
  exact absurd (distinct same) isDrawn.ne'

theorem keys_onStatusChange (simId : String) (newStatus : SimulationStatus)
    (entry : RegisteredSimulation) (registry : SimulationRegistry) :
    (onStatusChange simId newStatus entry registry).simulationsDb.keys =
        registry.simulationsDb.keys ∧
      (onStatusChange simId newStatus entry registry).drawn = registry.drawn := by
  unfold onStatusChange
  split
  · dsimp only
    exact ⟨keys_change .., rfl⟩
  · exact ⟨rfl, rfl⟩

theorem keys_changeStatus (simId : String) (change : StatusChange) (registry : SimulationRegistry) :
    (registry.changeStatus simId change).simulationsDb.keys = registry.simulationsDb.keys ∧
      (registry.changeStatus simId change).drawn = registry.drawn := by
  unfold changeStatus
  split
  · exact ⟨rfl, rfl⟩
  · split
    · exact ⟨rfl, rfl⟩
    · obtain ⟨sameKeys, sameDrawn⟩ := keys_onStatusChange simId _ _ _
      rw [sameKeys, sameDrawn]
      dsimp only
      exact ⟨keys_change .., rfl⟩

theorem Consistent.register (distinct : Function.Injective uuid4) {registry : SimulationRegistry}
    (consistent : registry.Consistent uuid4) (builds : Bool) (now : ℚ) :
    (registry.register uuid4 builds now).2.Consistent uuid4 := by
  have sublist := (evictCompletedSimulations_evicted consistent.distinct).sublist.map Prod.fst
  dsimp only [SimulationRegistry.register]
  split
  · split
    · exact consistent.of_keys sublist (Nat.le_succ _)
    · next hasRoom =>
        have evicted : Consistent uuid4 { registry with
              simulationsDb := registry.simulationsDb.evictCompletedSimulations } :=
          consistent.of_keys sublist le_rfl
        have isNew : uuid4 registry.drawn ∉ registry.simulationsDb.evictCompletedSimulations.keys :=
          evicted.isNew distinct
        rw [insert_of_not_mem isNew]
        refine ⟨?_, fun key held => ?_, ?_⟩
        · unfold keys
          rw [List.map_append]
          exact List.nodup_append.mpr ⟨evicted.distinct, List.nodup_singleton _,
            fun key held other isOther same => isNew (by
              rw [List.map_singleton, List.mem_singleton] at isOther
              rw [isOther] at same
              dsimp only at same
              rw [← same]
              exact held)⟩
        · unfold keys at held
          rw [List.map_append, List.mem_append] at held
          rcases held with held | isLast
          · obtain ⟨n, isDrawn, same⟩ := evicted.drawn key held
            exact ⟨n, Nat.lt_succ_of_lt isDrawn, same⟩
          · rw [List.map_singleton, List.mem_singleton] at isLast
            exact ⟨registry.drawn, Nat.lt_succ_self _, isLast⟩
        · rw [List.length_append, List.length_singleton]
          exact Nat.lt_of_not_le hasRoom
  · exact consistent.of_keys (List.Sublist.refl _) (Nat.le_succ _)

theorem Consistent.step (distinct : Function.Injective uuid4) {registry : SimulationRegistry}
    (consistent : registry.Consistent uuid4) (event : RegistryEvent) :
    (registry.step uuid4 event).Consistent uuid4 := by
  cases event with
  | register builds now => exact consistent.register distinct builds now
  | change simId change =>
    obtain ⟨sameKeys, sameDrawn⟩ := keys_changeStatus simId change registry
    exact consistent.of_keys (sameKeys ▸ List.Sublist.refl _) sameDrawn.ge

theorem after_append (history : List RegistryEvent) (event : RegistryEvent) :
    after uuid4 (history ++ [event]) = (after uuid4 history).step uuid4 event := by
  unfold after
  rw [List.foldl_append, List.foldl_cons, List.foldl_nil]

theorem consistent_after (distinct : Function.Injective uuid4) (history : List RegistryEvent) :
    (after uuid4 history).Consistent uuid4 := by
  induction history using List.reverseRecOn with
  | nil => exact ⟨List.nodup_nil, nofun, Nat.zero_le _⟩
  | append_singleton _ event ih =>
    rw [after_append]
    exact ih.step distinct event

/-- How a registration ends; other events end no registration. -/
def outcome (uuid4 : Nat → String)
    (registry : SimulationRegistry) : RegistryEvent → Option Registration
  | .register builds now => some (registry.register uuid4 builds now).1
  | .change _ _ => none

/-- What the registry promises of one event. -/
structure Kept (uuid4 : Nat → String) (registry : SimulationRegistry)
    (event : RegistryEvent) : Prop where
  bounded : (registry.step uuid4 event).simulationsDb.length ≤ maxConcurrentSimulations
  spared : ∀ entry ∈ registry.simulationsDb,
    entry.1 ∉ (registry.step uuid4 event).simulationsDb.keys →
      entry.2.status ≠ .running ∧ entry.2.status ≠ .paused
  oldest : ∀ gone ∈ registry.simulationsDb,
    gone.1 ∉ (registry.step uuid4 event).simulationsDb.keys → gone.2.status.Finished ∧
        ∀ stays ∈ registry.simulationsDb, stays.1 ∈ (registry.step uuid4 event).simulationsDb.keys →
            stays.2.status.Finished → gone.2.createdAt ≤ stays.2.createdAt
  refused : registry.outcome uuid4 event = some .limitReached →
    registry.simulationsDb.length = maxConcurrentSimulations ∧ ∀ entry ∈ registry.simulationsDb,
        entry.2.status = .running ∨ entry.2.status = .paused
  persisted : (registry.step uuid4 event).persisted = registry.persisted ++ registry.finishes event

/-- No registration finds the registry full of unfinished simulations with one among them
that was never started, and no simulation finishes that has finished before. -/
def StartedOnce (registry : SimulationRegistry) : RegistryEvent → Prop
  | .register builds _ =>
    builds = true → maxConcurrentSimulations ≤ registry.simulationsDb.length →
      (∀ entry ∈ registry.simulationsDb, ¬ entry.2.status.Finished) →
        ∀ entry ∈ registry.simulationsDb, entry.2.status ≠ .initialized
  | .change simId change =>
    ∀ entry newStatus, registry.simulationsDb.lookup simId = some entry →
      entry.status.transition change = some newStatus → newStatus.Finished →
        entry.hasPersisted = false

section

variable {registry : SimulationRegistry} (distinct : Function.Injective uuid4)
  (consistent : registry.Consistent uuid4)
  (builds : Bool)
  (now : ℚ)

include distinct consistent

theorem mem_keys_register {entry : String × RegisteredSimulation}
    (held : entry ∈ registry.simulationsDb) :
    entry.1 ∈ (registry.register uuid4 builds now).2.simulationsDb.keys ↔
      (builds = true → entry ∈ registry.simulationsDb.evictCompletedSimulations) := by
  have evicted := evictCompletedSimulations_evicted consistent.distinct
  have key_iff : entry.1 ∈ registry.simulationsDb.evictCompletedSimulations.keys ↔
      entry ∈ registry.simulationsDb.evictCompletedSimulations := by
    constructor
    · intro isKey
      obtain ⟨other, kept, sameKey⟩ := List.mem_map.mp isKey
      rw [← entry_eq consistent.distinct (evicted.sublist.subset kept) held sameKey]
      exact kept
    · exact List.mem_map_of_mem
  dsimp only [SimulationRegistry.register]
  cases builds with
  | false =>
    rw [if_neg Bool.false_ne_true]
    exact ⟨nofun, fun _ => List.mem_map_of_mem held⟩
  | true =>
    rw [if_pos rfl]
    split
    · exact key_iff.trans ⟨fun kept _ => kept, fun kept => kept rfl⟩
    · have isNew : uuid4 registry.drawn ∉
          registry.simulationsDb.evictCompletedSimulations.keys := by
        intro isKey
        exact consistent.isNew distinct ((evicted.sublist.map Prod.fst).subset isKey)
      have notNew : entry.1 ≠ uuid4 registry.drawn := by
        intro same
        apply consistent.isNew distinct
        rw [← same]
        exact List.mem_map_of_mem held
      dsimp only
      rw [insert_of_not_mem isNew, keys, List.map_append, List.mem_append,
        List.map_singleton, List.mem_singleton, or_iff_left notNew]
      exact key_iff.trans ⟨fun kept _ => kept, fun kept => kept rfl⟩

omit distinct in
theorem register_refused : (registry.register uuid4 builds now).1 = .limitReached ↔
      builds = true ∧ maxConcurrentSimulations ≤ registry.simulationsDb.length ∧
        ∀ entry ∈ registry.simulationsDb, ¬ entry.2.status.Finished := by
  rw [← evictCompletedSimulations_full consistent.distinct consistent.bounded]
  dsimp only [SimulationRegistry.register]
  cases builds with
  | false => simp
  | true =>
    rw [if_pos rfl]
    split
    · next isFull => exact ⟨fun _ => ⟨rfl, isFull⟩, fun _ => rfl⟩
    · next hasRoom =>
        exact ⟨nofun, fun both => absurd both.2 hasRoom⟩

omit distinct consistent in
/-- A registration records nothing. -/
theorem persisted_register :
    (registry.register uuid4 builds now).2.persisted = registry.persisted := by
  dsimp only [SimulationRegistry.register]
  split
  · split <;> rfl
  · rfl

/-- A registration keeps the promises, unless it finds the registry full of unfinished
simulations with one among them that was never started. -/
theorem kept_register_iff : Kept uuid4 registry (.register builds now) ↔
      StartedOnce registry (.register builds now) := by
  have evicted := evictCompletedSimulations_evicted consistent.distinct
  have refused_iff : (registry.register uuid4 builds now).1 = .limitReached ↔ _ :=
    register_refused consistent builds now
  constructor
  · intro kept isBuilt isFull unfinished entry held isInitialized
    have isRefused := refused_iff.mpr ⟨isBuilt, isFull, unfinished⟩
    have busy := (kept.refused (congrArg some isRefused)).2 entry held
    rw [isInitialized] at busy
    rcases busy with impossible | impossible
    · exact nomatch impossible
    · exact nomatch impossible
  · intro started
    have dropped : ∀ gone ∈ registry.simulationsDb,
        gone.1 ∉ (registry.step uuid4 (.register builds now)).simulationsDb.keys →
          gone ∉ registry.simulationsDb.evictCompletedSimulations := by
      intro gone held isGone kept
      exact isGone ((mem_keys_register distinct consistent builds now held).mpr fun _ => kept)
    refine ⟨(consistent.step distinct _).bounded, fun entry held isGone => ?_,
      fun gone held isGone => ?_, fun isRefused => ?_, ?_⟩
    · have isFinished := evicted.finished entry held (dropped entry held isGone)
      constructor
      · rintro isRunning
        rw [isRunning] at isFinished
        exact absurd isFinished (by decide)
      · rintro isPaused
        rw [isPaused] at isFinished
        exact absurd isFinished (by decide)
    · have isDropped := dropped gone held isGone
      refine ⟨evicted.finished gone held isDropped, fun stays staysHeld isKey isFinished => ?_⟩
      have isBuilt : builds = true := by
        by_contra notBuilt
        exact isGone ((mem_keys_register distinct consistent builds now held).mpr
          fun isBuilt => absurd isBuilt notBuilt)
      have kept := (mem_keys_register distinct consistent builds now staysHeld).mp isKey isBuilt
      exact evicted.oldest gone held isDropped stays kept isFinished
    · obtain ⟨isBuilt, isFull, unfinished⟩ := refused_iff.mp (Option.some.inj isRefused)
      refine ⟨consistent.bounded.antisymm isFull, fun entry held => ?_⟩
      have notFinished := unfinished entry held
      have isStarted := started isBuilt isFull unfinished entry held
      cases isStatus : entry.2.status with
      | initialized => exact absurd isStatus isStarted
      | running => exact .inl rfl
      | paused => exact .inr rfl
      | completed => exact absurd (.inl isStatus) notFinished
      | error => exact absurd (.inr isStatus) notFinished
    · exact (persisted_register builds now).trans (List.append_nil _).symm

end

theorem persisted_changeStatus (simId : String) (change : StatusChange)
    (registry : SimulationRegistry) : (registry.changeStatus simId change).persisted =
        registry.persisted ++ registry.finishes (.change simId change) ↔
      StartedOnce registry (.change simId change) := by
  unfold changeStatus finishes StartedOnce
  dsimp only
  cases found : registry.simulationsDb.lookup simId with
  | none => exact ⟨(fun _ _ _ impossible => nomatch impossible), fun _ => (List.append_nil _).symm⟩
  | some entry =>
    dsimp only
    cases entered : entry.status.transition change with
    | none =>
      refine ⟨fun _ other newStatus same isEntered => ?_, fun _ => (List.append_nil _).symm⟩
      rw [← Option.some.inj same, entered] at isEntered
      exact nomatch isEntered
    | some newStatus =>
      dsimp only
      unfold onStatusChange
      by_cases isFinished : newStatus.Finished
      · rw [if_pos isFinished]
        cases flag : entry.hasPersisted with
        | false =>
          rw [if_pos ⟨isFinished, rfl⟩]
          refine ⟨fun _ other _ same _ _ => ?_, fun _ => rfl⟩
          rw [← Option.some.inj same]
          exact flag
        | true =>
          rw [if_neg fun both => nomatch both.2]
          constructor
          · intro recorded
            exact absurd recorded (by simp)
          · intro startedOnce
            have notFlagged := startedOnce entry newStatus rfl entered isFinished
            exact nomatch flag.symm.trans notFlagged
      · rw [if_neg isFinished, if_neg fun both => isFinished both.1]
        refine ⟨fun _ other newer same isEntered isFinishedNewer => ?_,
          fun _ => (List.append_nil _).symm⟩
        rw [← Option.some.inj same, entered] at isEntered
        exact absurd (Option.some.inj isEntered ▸ isFinishedNewer) isFinished

/-- A status change keeps the promises, unless a simulation finishes again. -/
theorem kept_change_iff {registry : SimulationRegistry} (distinct : Function.Injective uuid4)
    (consistent : registry.Consistent uuid4) (simId : String) (change : StatusChange) :
    Kept uuid4 registry (.change simId change) ↔ StartedOnce registry (.change simId change) := by
  rw [← persisted_changeStatus]
  refine ⟨Kept.persisted, fun persisted => ?_⟩
  have sameKeys := (keys_changeStatus simId change registry).1
  have stays : ∀ entry ∈ registry.simulationsDb,
      entry.1 ∈ (registry.step uuid4 (.change simId change)).simulationsDb.keys := by
    intro entry held
    change entry.1 ∈ (registry.changeStatus simId change).simulationsDb.keys
    rw [sameKeys]
    exact List.mem_map_of_mem held
  exact ⟨(consistent.step distinct _).bounded,
    fun entry held isGone => absurd (stays entry held) isGone,
    fun gone held isGone => absurd (stays gone held) isGone,
    nofun, persisted⟩

/-- Over every history the registry keeps its promises at each event, exactly when no
registration finds it full of unfinished simulations with one that was never started, and
no simulation finishes again. -/
theorem registry_kept_iff (uuid4 : Nat → String) (distinct : Function.Injective uuid4)
    (history : List RegistryEvent) : (∀ before event later, history = before ++ event :: later →
        Kept uuid4 (after uuid4 before) event) ↔
      ∀ before event later, history = before ++ event :: later →
        StartedOnce (after uuid4 before) event := by
  have kept_iff : ∀ before event, Kept uuid4 (after uuid4 before) event ↔
      StartedOnce (after uuid4 before) event := by
    intro before event
    have consistent := consistent_after distinct before
    cases event with
    | register builds now => exact kept_register_iff distinct consistent builds now
    | change simId change => exact kept_change_iff distinct consistent simId change
  constructor
  · exact fun kept before event later isHistory =>
      (kept_iff before event).mp (kept before event later isHistory)
  · exact fun started before event later isHistory =>
      (kept_iff before event).mpr (started before event later isHistory)

/-- Identifiers that tell the draws apart. -/
def unaryId (n : Nat) : String := String.ofList (List.replicate n 'i')

theorem unaryId_injective : Function.Injective unaryId := by
  intro first second same
  have sameLists := congrArg String.toList same
  unfold unaryId at sameLists
  rw [String.toList_ofList, String.toList_ofList] at sameLists
  simpa using congrArg List.length sameLists

theorem registry_kept_finished : (∀ before event later,
      [.register true 0, .change (unaryId 0) .start, .change (unaryId 0) .complete] =
          before ++ event :: later → Kept unaryId (after unaryId before) event) ↔
      ∀ before event later,
        [.register true 0, .change (unaryId 0) .start, .change (unaryId 0) .complete] =
            before ++ event :: later → StartedOnce (after unaryId before) event :=
  registry_kept_iff unaryId unaryId_injective _

/-- Fifty registrations without a start. -/
def neverStarted : List RegistryEvent := List.replicate 50 (.register true 0)

/-- A run that completes and, after a reset, is completed again. -/
def startedAgain : List RegistryEvent :=
  [.register true 0, .change (unaryId 0) .start, .change (unaryId 0) .complete,
    .change (unaryId 0) .reset, .change (unaryId 0) .start]

/-- A registry of simulations that were never started refuses the next one, and a run
that completes after a reset is not recorded. -/
theorem registry_not_kept : ¬ Kept unaryId (after unaryId neverStarted) (.register true 0) ∧
      ¬ Kept unaryId (after unaryId startedAgain) (.change (unaryId 0) .complete) := by
  constructor
  · intro kept
    have isRefused : outcome unaryId (after unaryId neverStarted) (.register true 0) =
        some .limitReached := by decide +kernel
    have isHeld : (unaryId 0, { createdAt := 0 }) ∈
        (after unaryId neverStarted).simulationsDb := by decide +kernel
    exact absurd ((kept.refused isRefused).2 _ isHeld) (by decide)
  · intro kept
    exact absurd kept.persisted (by decide)

end SimulationRegistry
end UrbanFlow
