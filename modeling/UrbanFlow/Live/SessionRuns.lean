import Mathlib.Data.List.Induction
import UrbanFlow.Live.Sessions

/-!
# What the live session registry keeps

A sweep keeps the default session and every active one, and brings the registry
down to its cap unless nothing else is left; what it drops for space was last
seen no later than any inactive session it keeps. A request for a new session
sweeps before it adds, so it may leave one session more; a request for a session
the registry holds drops nothing.
-/

namespace UrbanFlow.LiveSessions

open Eviction

instance seenBefore_total : Std.Total SeenBefore where
  total first second := by
    unfold SeenBefore
    by_cases same : first.1 = second.1
    · simpa [same] using le_total first.2 second.2
    · exact (lt_or_gt_of_ne same).imp Or.inl Or.inl

instance seenBefore_trans : IsTrans (ℚ × String) SeenBefore where
  trans first second third earlier later := by
    unfold SeenBefore at *
    rcases earlier with earlier | ⟨sameSeen, earlier⟩
    · left
      rcases later with later | ⟨sameSeen, _⟩
      · exact earlier.trans later
      · exact sameSeen ▸ earlier
    · rw [sameSeen]
      exact later.imp_right fun last => ⟨last.1, earlier.trans last.2⟩

theorem candidates_sorted (sessions : LiveSessions) : sessions.candidates.Pairwise SeenBefore :=
  List.pairwise_insertionSort SeenBefore _

@[simp] theorem mem_candidates {sessions : LiveSessions} {candidate : ℚ × String} :
    candidate ∈ sessions.candidates ↔ ∃ entry ∈ sessions,
        ¬ Protected entry ∧ (entry.2.lastSeen, entry.1) = candidate := by
  simp only [candidates, List.mem_insertionSort, List.mem_map,
    List.mem_filter, decide_eq_true_eq, and_assoc]

/-- The candidates' keys are those of the entries a sweep may drop. -/
theorem candidateKeys_perm (sessions : LiveSessions) : (sessions.candidates.map Prod.snd).Perm
      (keys (sessions.filter fun entry => ¬ Protected entry)) := by
  have sorted := (List.perm_insertionSort SeenBefore
    ((sessions.filter fun entry => ¬ Protected entry).map
      fun entry => (entry.2.lastSeen, entry.1))).map Prod.snd
  simpa [candidates, keys, Function.comp_def] using sorted

/-- Keys are distinct: the registry is a dictionary. -/
def Distinct (sessions : LiveSessions) : Prop := sessions.keys.Nodup

theorem Distinct.of_sublist {fewer sessions : LiveSessions} (distinct : sessions.Distinct)
    (sublist : fewer.Sublist sessions) : Distinct fewer :=
  (sublist.map Prod.fst).nodup distinct

theorem Distinct.entry_eq {sessions : LiveSessions} {first second : String × LiveSession}
    (distinct : sessions.Distinct) (firstHeld : first ∈ sessions) (secondHeld : second ∈ sessions)
    (sameKey : first.1 = second.1) : first = second :=
  List.inj_on_of_nodup_map distinct firstHeld secondHeld sameKey

theorem overflowing_nodup {sessions : LiveSessions} (distinct : sessions.Distinct) :
    sessions.overflowing.Nodup := by
  have all : (sessions.candidates.map Prod.snd).Nodup :=
    (candidateKeys_perm sessions).nodup_iff.mpr (distinct.of_sublist List.filter_sublist)
  exact ((List.take_sublist _ _).map Prod.snd).nodup all

theorem overflowing_subset (sessions : LiveSessions) : sessions.overflowing ⊆ sessions.keys := by
  intro key victim
  simp only [overflowing, List.mem_map] at victim
  obtain ⟨candidate, isTaken, rfl⟩ := victim
  obtain ⟨entry, held, _, rfl⟩ := mem_candidates.mp (List.mem_of_mem_take isTaken)
  exact List.mem_map_of_mem held

/-- An entry's key overflows where its own candidate is among the first. -/
theorem mem_overflowing {sessions : LiveSessions} {entry : String × LiveSession}
    (distinct : sessions.Distinct) (held : entry ∈ sessions) :
    entry.1 ∈ sessions.overflowing ↔ ¬ Protected entry ∧ (entry.2.lastSeen, entry.1) ∈
        sessions.candidates.take (sessions.length - maxLiveSessions) := by
  simp only [overflowing, List.mem_map]
  constructor
  · rintro ⟨candidate, isTaken, sameKey⟩
    obtain ⟨other, otherHeld, inactive, rfl⟩ := mem_candidates.mp (List.mem_of_mem_take isTaken)
    obtain rfl := distinct.entry_eq otherHeld held sameKey
    exact ⟨inactive, isTaken⟩
  · rintro ⟨_, isTaken⟩
    exact ⟨_, isTaken, rfl⟩

theorem dropOverflowing_sublist (sessions : LiveSessions) :
    sessions.dropOverflowing.Sublist sessions := by
  unfold dropOverflowing
  split
  · exact without_sublist ..
  · exact List.Sublist.refl _

section

variable {sessions : LiveSessions}

/-- The second pass fits the registry into its cap, or runs out of entries it
may drop. -/
theorem dropOverflowing_fits (distinct : sessions.Distinct) :
    sessions.dropOverflowing.length ≤ maxLiveSessions ∨
      ∀ entry ∈ sessions.dropOverflowing, Protected entry := by
  unfold dropOverflowing
  split
  case isFalse fits => exact Or.inl (by omega)
  case isTrue overCap =>
    have taken := length_without distinct
      (overflowing_nodup distinct) (overflowing_subset sessions)
    have victims : sessions.overflowing.length =
        min (sessions.length - maxLiveSessions) sessions.candidates.length := by
      simp [overflowing]
    by_cases enough : sessions.length - maxLiveSessions ≤ sessions.candidates.length
    · left
      omega
    · right
      intro entry kept
      obtain ⟨held, spared⟩ := mem_without.mp kept
      by_contra inactive
      -- every candidate is among the first: there are too few of them
      have isTaken : (entry.2.lastSeen, entry.1) ∈
          sessions.candidates.take (sessions.length - maxLiveSessions) := by
        rw [List.take_of_length_le (by omega)]
        exact mem_candidates.mpr ⟨entry, held, inactive, rfl⟩
      exact spared ((mem_overflowing distinct held).mpr ⟨inactive, isTaken⟩)

theorem dropOverflowing_spares {entry : String × LiveSession} (distinct : sessions.Distinct)
    (held : entry ∈ sessions) (isProtected : Protected entry) :
    entry ∈ sessions.dropOverflowing := by
  unfold dropOverflowing
  split
  · refine mem_without.mpr ⟨held, fun victim => ?_⟩
    exact ((mem_overflowing distinct held).mp victim).1 isProtected
  · exact held

/-- Whoever the second pass drops, it drops no more than it must, and nobody it
may also have dropped was seen before. -/
theorem dropOverflowing_oldest {gone : String × LiveSession} (distinct : sessions.Distinct)
    (held : gone ∈ sessions) (dropped : gone ∉ sessions.dropOverflowing) :
    ¬ Protected gone ∧ maxLiveSessions ≤ sessions.dropOverflowing.length ∧
        ∀ stays ∈ sessions.dropOverflowing, ¬ Protected stays →
          gone.2.lastSeen ≤ stays.2.lastSeen := by
  refine ⟨fun isProtected => dropped (dropOverflowing_spares distinct held isProtected), ?_⟩
  unfold dropOverflowing at dropped ⊢
  split at dropped
  case isFalse => exact absurd held dropped
  case isTrue overCap =>
    rw [if_pos overCap]
    have victim : gone.1 ∈ sessions.overflowing := by simpa [held] using dropped
    obtain ⟨_, isTaken⟩ := (mem_overflowing distinct held).mp victim
    constructor
    · have taken := length_without distinct
        (overflowing_nodup distinct) (overflowing_subset sessions)
      have victims : sessions.overflowing.length = min (sessions.length - maxLiveSessions)
            sessions.candidates.length := by
        simp [overflowing]
      omega
    · intro stays kept inactive
      obtain ⟨staysHeld, spared⟩ := mem_without.mp kept
      have order : SeenBefore (gone.2.lastSeen, gone.1) (stays.2.lastSeen, stays.1) :=
        relation_of_take (candidates_sorted sessions) isTaken
          (mem_candidates.mpr ⟨stays, staysHeld, inactive, rfl⟩)
          fun staysTaken => spared ((mem_overflowing distinct staysHeld).mpr ⟨inactive, staysTaken⟩)
      exact order.elim le_of_lt fun same => le_of_eq same.1

end

/-- What a sweep does to the registry: it keeps the default session and the
active ones, drops whatever else has expired, fits the rest into the cap unless
all of it is protected, and drops for space only as many sessions as it must,
none of them seen after an inactive one it keeps. -/
structure Swept (now : ℚ) (before swept : LiveSessions) : Prop where
  sublist : swept.Sublist before
  bounded : swept.length ≤ maxLiveSessions ∨ ∀ entry ∈ swept, Protected entry
  spared : ∀ entry ∈ before, Protected entry → entry ∈ swept
  fresh : ∀ entry ∈ swept, Protected entry ∨ ¬ Expired now entry
  oldest : ∀ gone ∈ before, gone ∉ swept → ¬ Expired now gone → maxLiveSessions ≤ swept.length ∧
      ∀ stays ∈ swept, ¬ Protected stays → gone.2.lastSeen ≤ stays.2.lastSeen

theorem mem_dropExpired {now : ℚ} {sessions : LiveSessions} {entry : String × LiveSession} :
    entry ∈ sessions.dropExpired now ↔
      entry ∈ sessions ∧ (Protected entry ∨ ¬ Expired now entry) := by
  simp [dropExpired, imp_iff_not_or]

theorem evictStaleSessions_swept {sessions : LiveSessions} (distinct : sessions.Distinct)
    (now : ℚ) : Swept now sessions (sessions.evictStaleSessions now) := by
  have firstPass : (sessions.dropExpired now).Sublist sessions := List.filter_sublist
  have stillDistinct := distinct.of_sublist firstPass
  have secondPass := dropOverflowing_sublist (sessions.dropExpired now)
  refine ⟨secondPass.trans firstPass, dropOverflowing_fits stillDistinct, ?spared, ?fresh, ?oldest⟩
  case spared =>
    intro entry held isProtected
    exact dropOverflowing_spares stillDistinct
      (mem_dropExpired.mpr ⟨held, Or.inl isProtected⟩) isProtected
  case fresh =>
    intro entry kept
    exact (mem_dropExpired.mp (secondPass.subset kept)).2
  case oldest =>
    intro gone held dropped alive
    exact (dropOverflowing_oldest stillDistinct
      (mem_dropExpired.mpr ⟨held, Or.inr alive⟩) dropped).2

@[simp] theorem keys_append (first second : LiveSessions) :
    keys (first ++ second) = first.keys ++ second.keys := by
  simp [keys]

section

variable (key : String) (update : LiveSession → LiveSession) (sessions : LiveSessions)

@[simp] theorem keys_change : (sessions.change key update).keys = sessions.keys := by
  simp only [keys, change, List.map_map]
  apply List.map_congr_left
  intro entry _
  simp only [Function.comp_apply]
  split <;> rfl

@[simp] theorem length_change : (sessions.change key update).length = sessions.length := by
  simp [change]

end

theorem change_of_not_mem {key : String} {sessions : LiveSessions} (absent : key ∉ sessions.keys)
    (update : LiveSession → LiveSession) : sessions.change key update = sessions := by
  have unchanged : ∀ entry ∈ sessions,
      (if entry.1 = key then (entry.1, update entry.2) else entry) = entry := by
    intro entry held
    rw [if_neg]
    rintro rfl
    exact absent (List.mem_map_of_mem held)
  unfold change
  rw [List.map_congr_left unchanged]
  exact List.map_id _

theorem change_append (key : String) (update : LiveSession → LiveSession)
    (first second : LiveSessions) :
    change key update (first ++ second) = first.change key update ++ second.change key update := by
  simp [change]

theorem mem_change_of_ne {key : String} {sessions : LiveSessions} {entry : String × LiveSession}
    (held : entry ∈ sessions) (other : entry.1 ≠ key) (update : LiveSession → LiveSession) :
    entry ∈ sessions.change key update :=
  List.mem_map.mpr ⟨entry, held, if_neg other⟩

/-- What a request does to the registry. It drops nothing where it finds its
session; else it sweeps and adds the session, so that it may leave the registry
one session over the cap. -/
structure Requested (key : String) (clock : RequestClock)
    (before requested : LiveSessions) : Prop where
  found : key ∈ before.keys → requested.keys = before.keys ∧
      ∀ entry ∈ before, entry.1 ≠ key → entry ∈ requested
  created : key ∉ before.keys → ∃ swept, Swept clock.swept before swept ∧
      requested = swept ++ [(key, { lastSeen := clock.touched })] ∧
      (requested.length ≤ maxLiveSessions + 1 ∨
        ∀ entry ∈ requested, entry.1 = key ∨ Protected entry)
  held : key ∈ requested.keys

section

variable {key : String} {sessions : LiveSessions}

theorem getOrCreateSession_of_mem (held : key ∈ sessions.keys) (clock : RequestClock) :
    sessions.getOrCreateSession key clock = sessions.change key (.touch clock.touched) :=
  if_pos held

theorem getOrCreateSession_of_not_mem (distinct : sessions.Distinct) (absent : key ∉ sessions.keys)
    (clock : RequestClock) :
    sessions.getOrCreateSession key clock = sessions.evictStaleSessions clock.swept ++
        [(key, { lastSeen := clock.touched })] := by
  have swept := evictStaleSessions_swept distinct clock.swept
  have stillAbsent : key ∉ keys (sessions.evictStaleSessions clock.swept) :=
    fun held => absent ((swept.sublist.map Prod.fst).subset held)
  unfold getOrCreateSession
  rw [if_neg absent, change_append, change_of_not_mem stillAbsent]
  simp [change, LiveSession.touch]

end

theorem getOrCreateSession_requested {sessions : LiveSessions} (distinct : sessions.Distinct)
    (key : String) (clock : RequestClock) :
    Requested key clock sessions (sessions.getOrCreateSession key clock) := by
  refine ⟨?found, ?created, ?held⟩
  case found =>
    intro held
    rw [getOrCreateSession_of_mem held]
    exact ⟨keys_change .., fun entry entryHeld other => mem_change_of_ne entryHeld other _⟩
  case created =>
    intro absent
    have swept := evictStaleSessions_swept distinct clock.swept
    refine ⟨_, swept, getOrCreateSession_of_not_mem distinct absent clock, ?_⟩
    rw [getOrCreateSession_of_not_mem distinct absent]
    refine swept.bounded.imp (fun fits => ?_) fun allProtected entry added => ?_
    · simpa using fits
    · rcases List.mem_append.mp added with kept | isNew
      · exact Or.inr (allProtected entry kept)
      · left
        rw [List.mem_singleton.mp isNew]
  case held =>
    by_cases held : key ∈ sessions.keys
    · rwa [getOrCreateSession_of_mem held, keys_change]
    · rw [getOrCreateSession_of_not_mem distinct held]
      simp [keys]

structure Consistent (sessions : LiveSessions) : Prop where
  distinct : sessions.Distinct
  default : defaultSessionKey ∈ sessions.keys

theorem Consistent.swept {now : ℚ} {before swept : LiveSessions} (consistent : before.Consistent)
    (law : Swept now before swept) : swept.Consistent := by
  refine ⟨consistent.distinct.of_sublist law.sublist, ?_⟩
  obtain ⟨entry, held, isDefault⟩ := List.mem_map.mp consistent.default
  exact isDefault ▸ List.mem_map_of_mem (law.spared entry held (Or.inl isDefault))

theorem Consistent.change {sessions : LiveSessions} (consistent : sessions.Consistent)
    (key : String) (update : LiveSession → LiveSession) :
    (sessions.change key update).Consistent := by
  constructor
  · unfold Distinct
    rw [keys_change]
    exact consistent.distinct
  · rw [keys_change]
    exact consistent.default

theorem Consistent.step {sessions : LiveSessions} (consistent : sessions.Consistent)
    (event : LiveEvent) : (sessions.step event).Consistent := by
  cases event with
  | request key clock =>
    by_cases held : key ∈ sessions.keys
    · have changed := consistent.change key (.touch clock.touched)
      rwa [← getOrCreateSession_of_mem held] at changed
    · have swept := evictStaleSessions_swept consistent.distinct clock.swept
      have kept := consistent.swept swept
      have absent : key ∉ keys (sessions.evictStaleSessions clock.swept) :=
        fun stays => held ((swept.sublist.map Prod.fst).subset stays)
      simp only [LiveSessions.step]
      rw [getOrCreateSession_of_not_mem consistent.distinct held]
      constructor
      · unfold Distinct
        rw [keys_append]
        exact List.nodup_append.mpr ⟨kept.distinct, by simp [keys], by
            intro first firstKept second isNew
            obtain rfl : second = key := by simpa [keys] using isNew
            rintro rfl
            exact absent firstKept⟩
      · rw [keys_append]
        exact List.mem_append_left _ kept.default
  | sweep now => exact consistent.swept (evictStaleSessions_swept consistent.distinct now)
  | touch key => exact consistent.change key _
  | activity key engine dualSimOrchestrator comparisonOrchestrator =>
    exact consistent.change key fun session =>
      { session with
        engine := engine
        dualSimOrchestrator := dualSimOrchestrator
        comparisonOrchestrator := comparisonOrchestrator }

section

variable (loaded : ℚ) (history : List LiveEvent)

theorem after_append (event : LiveEvent) :
    after loaded (history ++ [event]) = (after loaded history).step event := by
  simp [after]

theorem consistent_after : (after loaded history).Consistent := by
  induction history using List.reverseRecOn with
  | nil => exact ⟨List.nodup_singleton _, List.mem_singleton_self _⟩
  | append_singleton _ event ih =>
    rw [after_append]
    exact ih.step event

end

theorem length_le_of_protected {sessions : LiveSessions} (distinct : sessions.Distinct)
    (allProtected : ∀ entry ∈ sessions, Protected entry) :
    sessions.length ≤ sessions.activeCount + 1 := by
  have defaults : sessions.countP (fun entry => entry.1 = defaultSessionKey) ≤ 1 := by
    have once := List.nodup_iff_count_le_one.mp distinct defaultSessionKey
    rw [List.count, keys, List.countP_map] at once
    exact once
  have others : sessions.countP
      (fun entry => ¬ entry.1 = defaultSessionKey) ≤ sessions.activeCount := by
    refine List.countP_mono_left fun entry held isOther => ?_
    simp only [decide_eq_true_eq] at isOther ⊢
    exact (allProtected entry held).resolve_left isOther
  have split := List.length_eq_countP_add_countP (fun entry : String × LiveSession =>
      decide (entry.1 = defaultSessionKey)) (l := sessions)
  simp only [decide_eq_true_eq] at split
  omega

/-- How large a sweep leaves the registry, by the sessions that are active. -/
theorem Swept.length_le {now : ℚ} {before swept : LiveSessions} (law : Swept now before swept)
    (distinct : before.Distinct) : swept.length ≤ max maxLiveSessions (before.activeCount + 1) := by
  rcases law.bounded with fits | allProtected
  · exact fits.trans (le_max_left _ _)
  · have most := length_le_of_protected (distinct.of_sublist law.sublist) allProtected
    have fewer : swept.activeCount ≤ before.activeCount := law.sublist.countP_le
    omega

theorem length_step_le {sessions : LiveSessions} {limit : Nat} (consistent : sessions.Consistent)
    (fewActive : sessions.activeCount ≤ limit)
    (bounded : sessions.length ≤ max maxLiveSessions (limit + 1) + 1) (event : LiveEvent) :
    (sessions.step event).length ≤ max maxLiveSessions (limit + 1) + 1 := by
  cases event with
  | request key clock =>
    by_cases held : key ∈ sessions.keys
    · simp only [step]
      rwa [getOrCreateSession_of_mem held, length_change]
    · have swept := (evictStaleSessions_swept consistent.distinct
        clock.swept).length_le consistent.distinct
      simp only [step]
      rw [getOrCreateSession_of_not_mem consistent.distinct held,
        List.length_append, List.length_singleton]
      omega
  | sweep now =>
    have swept := (evictStaleSessions_swept consistent.distinct now).length_le consistent.distinct
    simp only [step]
    omega
  | touch key now | activity key engine dualSimOrchestrator comparisonOrchestrator =>
    simpa [step] using bounded

/-- Where no more than `limit` sessions are ever active at once, the registry
never exceeds the larger of its cap and `limit + 1` by more than one. -/
theorem length_after_le {loaded : ℚ} {history : List LiveEvent} {limit : Nat}
    (fewActive : ∀ earlier, earlier <+: history → (after loaded earlier).activeCount ≤ limit) :
    (after loaded history).length ≤ max maxLiveSessions (limit + 1) + 1 := by
  induction history using List.reverseRecOn with
  | nil => simp [after, initial]
  | append_singleton history event ih =>
    rw [after_append]
    have earlier := ih fun earlier isPrefix =>
      fewActive earlier (isPrefix.trans (List.prefix_append _ _))
    exact length_step_le (consistent_after loaded history)
      (fewActive history (List.prefix_append _ _)) earlier event

/-- After every history: a sweep and a request do what `Swept` and `Requested`
say, the default session is there, and the registry outgrows its cap by no more
than one session beyond those that were active at some moment. -/
theorem registryBounded (loaded : ℚ) (history : List LiveEvent) :
    (∀ now, Swept now (after loaded history) ((after loaded history).evictStaleSessions now)) ∧
    (∀ key clock, Requested key clock (after loaded history)
      ((after loaded history).getOrCreateSession key clock)) ∧
    defaultSessionKey ∈ (after loaded history).keys ∧
    ∀ limit, (∀ earlier, earlier <+: history → (after loaded earlier).activeCount ≤ limit) →
      (after loaded history).length ≤ max maxLiveSessions (limit + 1) + 1 := by
  have consistent := consistent_after loaded history
  exact ⟨evictStaleSessions_swept consistent.distinct,
    getOrCreateSession_requested consistent.distinct,
    consistent.default, fun _ => length_after_le⟩

/-- A sweep keeps a registry in which everything is protected. -/
theorem evictStaleSessions_of_protected {sessions : LiveSessions}
    (allProtected : ∀ entry ∈ sessions, Protected entry) (now : ℚ) :
    sessions.evictStaleSessions now = sessions := by
  have noneExpired : sessions.dropExpired now = sessions :=
    List.filter_eq_self.mpr fun entry held => by simp [allProtected entry held]
  have noCandidates : sessions.candidates = [] := by
    refine List.eq_nil_iff_forall_not_mem.mpr fun candidate listed => ?_
    obtain ⟨entry, held, inactive, _⟩ := mem_candidates.mp listed
    exact inactive (allProtected entry held)
  unfold evictStaleSessions
  rw [noneExpired]
  unfold dropOverflowing
  split
  · simp [overflowing, noCandidates, without]
  · rfl

/-- A client requests a session and starts a simulation in it. -/
def startedBy (client : String) : List LiveEvent :=
  [.request client ⟨0, 0, 0⟩, .activity client (some .running) none none]

section

variable (status : SimulationStatus) (clients : List String)

/-- The registry once each client's session has an engine in a status. -/
def servingAll : LiveSessions := initial 0 ++ clients.map fun client =>
    (client, { lastSeen := 0, engine := some status })

theorem keys_servingAll : (servingAll status clients).keys = defaultSessionKey :: clients := by
  simp [servingAll, keys, initial, Function.comp_def]

end

/-- While every session is active no sweep drops one. -/
theorem after_startedBy {clients : List String} (distinct : (defaultSessionKey :: clients).Nodup) :
    after 0 (clients.flatMap startedBy) = servingAll .running clients := by
  induction clients using List.reverseRecOn with
  | nil => rfl
  | append_singleton clients client ih =>
    rw [← List.cons_append, List.nodup_append] at distinct
    obtain ⟨earlier, _, fresh⟩ := distinct
    have absent : client ∉ (servingAll .running clients).keys := by
      rw [keys_servingAll]
      exact fun held => fresh client held client (by simp) rfl
    have isDistinct : (servingAll .running clients).Distinct := by
      unfold Distinct
      rwa [keys_servingAll]
    have allProtected : ∀ entry ∈ servingAll .running clients, Protected entry := by
      intro entry held
      rcases List.mem_append.mp held with isDefault | serving
      · exact Or.inl (by rw [List.mem_singleton.mp isDefault])
      · obtain ⟨_, _, rfl⟩ := List.mem_map.mp serving
        exact Or.inr (Or.inl ⟨_, rfl, Or.inl rfl⟩)
    have requested := getOrCreateSession_of_not_mem isDistinct absent ⟨0, 0, 0⟩
    rw [evictStaleSessions_of_protected allProtected] at requested
    unfold after at ih ⊢
    rw [List.flatMap_append, List.foldl_append, ih earlier]
    simp only [List.flatMap_cons, List.flatMap_nil, List.append_nil,
      startedBy, List.foldl_cons, List.foldl_nil, step, requested]
    rw [change_append, change_of_not_mem absent]
    simp [servingAll, change]

/-- Whatever the clients' engines did, they may all complete. -/
theorem foldl_completed (sessions : LiveSessions) (completed : List String) :
    (completed.map fun client =>
        LiveEvent.activity client (some .completed) none none).foldl step
      sessions =
    sessions.map fun entry =>
      if entry.1 ∈ completed then
        (entry.1, { lastSeen := entry.2.lastSeen, engine := some .completed })
      else entry := by
  induction completed generalizing sessions with
  | nil => simp
  | cons client _ ih =>
    rw [List.map_cons, List.foldl_cons, ih]
    simp only [step, change, List.map_map]
    refine List.map_congr_left fun entry _ => ?_
    by_cases isClient : entry.1 = client
    · simp [isClient]
    · simp [isClient]

/-- More clients than the cap start a simulation each; then all of them
complete. -/
def busyThenDone (clients : List String) : List LiveEvent :=
  clients.flatMap startedBy ++ clients.map fun client =>
    .activity client (some .completed) none none

theorem after_busyThenDone {clients : List String}
    (distinct : (defaultSessionKey :: clients).Nodup) :
    after 0 (busyThenDone clients) = servingAll .completed clients := by
  have started := after_startedBy distinct
  have notClient := (List.nodup_cons.mp distinct).1
  unfold after at started ⊢
  unfold busyThenDone
  rw [List.foldl_append, started, foldl_completed]
  simp only [servingAll, List.map_append, List.map_map]
  congr 1
  · simp [initial, notClient]
  · refine List.map_congr_left fun client held => ?_
    simp [held]

/-- A hundred and two clients, told apart by the lengths of their keys. -/
def clients : List String :=
  (List.range 102).map fun length => String.ofList (List.replicate length 'c')

theorem clients_distinct : (defaultSessionKey :: clients).Nodup := by
  refine List.nodup_cons.mpr ⟨fun isClient => ?_, List.nodup_range.map ?_⟩
  · obtain ⟨length, _, isDefault⟩ := List.mem_map.mp isClient
    have letters : List.replicate length 'c' = "default".toList := by
      rw [← String.toList_ofList (l := List.replicate length 'c'), isDefault]
      rfl
    have first : 'd' ∈ List.replicate length 'c' := by
      rw [letters]
      decide
    simp at first
  · intro first second same
    simpa using congrArg (fun key => key.toList.length) same

/-- A request that finds its session sweeps nothing, so it may leave the
registry over its cap by sessions nothing protects any more. -/
theorem not_bounded_when_found : ¬ ∀ history key clock,
      let requested := (after 0 history).getOrCreateSession key clock
      requested.length ≤ maxLiveSessions + requested.countP fun entry => Protected entry := by
  intro bounded
  have notClient := (List.nodup_cons.mp clients_distinct).1
  have overCap := bounded (busyThenDone clients) defaultSessionKey ⟨0, 0, 0⟩
  rw [after_busyThenDone clients_distinct, getOrCreateSession_of_mem
    (by simp [keys_servingAll])] at overCap
  have default : (servingAll .completed clients).countP (fun entry => Protected entry) = 1 := by
    have others : (clients.map fun client =>
        (client, { lastSeen := 0, engine := some .completed })).countP
          (fun entry => Protected entry) = 0 := by
      refine List.countP_eq_zero.mpr fun entry held => ?_
      obtain ⟨client, isClient, rfl⟩ := List.mem_map.mp held
      have notDefault : client ≠ defaultSessionKey := by
        rintro rfl
        exact notClient isClient
      simp [Protected, LiveSession.IsActive, LiveSession.Holds, notDefault]
    unfold servingAll
    rw [List.countP_append, others]
    rfl
  have unchanged : (servingAll .completed clients).change defaultSessionKey
      (.touch 0) = servingAll .completed clients := by
    have absent : defaultSessionKey ∉ keys (clients.map fun client =>
        (client, { lastSeen := 0, engine := some .completed })) := by
      simpa [keys, Function.comp_def] using notClient
    unfold servingAll
    rw [change_append, change_of_not_mem absent]
    rfl
  simp only [unchanged, default] at overCap
  simp [servingAll, initial, clients, maxLiveSessions] at overCap

end UrbanFlow.LiveSessions
