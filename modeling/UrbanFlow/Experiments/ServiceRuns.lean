import UrbanFlow.Library.Machine
import UrbanFlow.Library.Tables
import UrbanFlow.Experiments.Service

/-!
# Every interleaving of the service's steps

How many experiments are live, for each user and in all. A submission or a resume
that has passed a check has a place reserved until it stores or marks its
record. The live experiments and the places reserved keep to the limits, as long
as no submission overlooks a resume under way and no background run starts on an
experiment that another run has ended.
-/

namespace UrbanFlow

open ExperimentRecord

namespace ExperimentRecord

/-- The store has the record, in memory or on disk. -/
def Kept (record : ExperimentRecord) : Prop := record.inMemory ∨ record.onDisk

/-- The experiment is queued, running or settling. -/
def Live (record : ExperimentRecord) : Prop :=
  (record.inMemory ∨ record.onDisk) ∧ (record.Busy ∨ record.settling)

instance : DecidablePred Live :=
  fun record => inferInstanceAs (Decidable ((record.inMemory = true ∨ record.onDisk = true) ∧
      (record.Busy ∨ record.settling = true)))

variable {record : ExperimentRecord}

theorem Active.live (active : record.Active) : record.Live := ⟨.inl active.1, active.2⟩

theorem not_live_settleCancelled : ¬ record.settleCancelled.Live := by
  simp [Live, Busy, settleCancelled, put]

theorem not_live_delete : ¬ record.delete.Live := by simp [Live, delete]

theorem live_cancel : record.cancel.Live := by simp [Live, cancel, put]

end ExperimentRecord

namespace ExperimentService

section

variable (user : Option String) (service : ExperimentService)

/-- The live experiments, of one user or of all. -/
def live : Nat := service.records.countP fun record => record.Live ∧ record.Of user

def limit : Option String → Nat
  | some _ => maxActiveExperimentsPerUser
  | none => maxActiveExperiments

/-- The place reserved for a submission that has passed a check. -/
def submitReserve : Nat := match service.submitting, user with
  | some pending, some userId => if pending.userId = userId then 1 else 0
  | some ⟨_, .totalChecked⟩, none => 1
  | _, _ => 0

/-- The place reserved for a resume that has passed a check and has not marked
its record. -/
def resumeReserve : Nat := match service.resuming, user with
  | some ⟨_, _, .marked _⟩, _ => 0
  | some pending, some userId => if pending.userId = userId then 1 else 0
  | some ⟨_, _, .totalChecked⟩, none => 1
  | _, _ => 0

end

/-- What has to hold before a step: a submission that passes a check would also
pass it counting the experiment of the resume under way, and a run that starts
finds its experiment live, unless it was asked to cancel. -/
def StepCounted (service : ExperimentService) : ServiceStep → Prop
  | .submitCheckUser userId =>
    service.active (some userId) < maxActiveExperimentsPerUser →
      service.live (some userId) + service.resumeReserve (some userId) < maxActiveExperimentsPerUser
  | .submitCheckTotal =>
    service.active none < maxActiveExperiments →
      service.live none + service.resumeReserve none < maxActiveExperiments
  | .runStart run =>
    ∀ background ∈ service.runAt run .submitted,
      ∀ record ∈ service.records[background.experiment]?, record.cancelRequested ∨ record.Live
  | _ => True

/-- The live experiments and the places reserved keep to the limits, and who may
touch which record. -/
structure Sound (service : ExperimentService) : Prop where
  within : ∀ user, service.live user + service.submitReserve user +
    service.resumeReserve user ≤ limit user
  exclusive : ∀ pending ∈ service.resuming, pending.phase = .userChecked → service.submitting = none
  resumed : ∀ pending ∈ service.resuming, pending.experiment ∉ service.starting ∧
      ∃ record, service.records[pending.experiment]? = some record ∧
        record.userId = pending.userId ∧ record.Kept ∧
        match pending.phase with
        | .marked previous => record = previous.mark ∧ ¬ previous.Live
        | _ => ¬ record.Live
  started : ∀ experiment ∈ service.starting,
    (∀ background ∈ service.runs, background.experiment ≠ experiment) ∧
      ∃ record, service.records[experiment]? = some record ∧ record.Live
  running : ∀ background ∈ service.runs,
    ∃ record, service.records[background.experiment]? = some record ∧ (record.Busy → record.Kept)
  loaded : ∀ experiment record, service.records[experiment]? = some record →
    record.Live → record.inMemory ∨ ∃ pending ∈ service.resuming, pending.experiment = experiment ∧
        ∃ previous, pending.phase = .marked previous

variable {service : ExperimentService} {experiment : Nat}
variable {record : ExperimentRecord} {update : ExperimentRecord → ExperimentRecord}

theorem live_eq_active (sound : Sound service)
    (unmarked : ∀ pending ∈ service.resuming, ∀ previous, pending.phase ≠ .marked previous)
    (user : Option String) : service.live user = service.active user := by
  apply List.countP_congr
  intro record member
  rw [decide_eq_true_iff, decide_eq_true_iff]
  apply and_congr_left
  intro _
  refine ⟨fun isLive => ?_, fun isActive => isActive.live⟩
  obtain ⟨experiment, found⟩ := List.mem_iff_getElem?.mp member
  rcases sound.loaded experiment record found isLive with inMemory | marked
  · exact ⟨inMemory, isLive.2⟩
  · obtain ⟨pending, isPending, _, previous, isMarked⟩ := marked
    exact absurd isMarked (unmarked pending isPending previous)

theorem live_change_le (found : service.records[experiment]? = some record)
    (sameUser : (update record).userId = record.userId)
    (noNew : (update record).Live → record.Live) (user : Option String) :
    (service.change experiment update).live user ≤ service.live user := by
  have counted := Tables.countP_modify
    (fun record : ExperimentRecord => record.Live ∧ record.Of user) update found
  have implied : (update record).Live ∧ (update record).Of user → record.Live ∧ record.Of user := by
    rintro ⟨isLive, isOf⟩
    exact ⟨noNew isLive, fun userId isUser => sameUser ▸ isOf userId isUser⟩
  change (service.records.modify experiment update).countP _ ≤ service.records.countP _
  by_cases after : (update record).Live ∧ (update record).Of user
  · rw [if_pos after, if_pos (implied after)] at counted
    omega
  · rw [if_neg after] at counted
    omega

theorem live_change_le_succ (update : ExperimentRecord → ExperimentRecord)
    (found : service.records[experiment]? = some record)
    (sameUser : (update record).userId = record.userId) (user : Option String) :
    (service.change experiment update).live user ≤
      service.live user + if record.Of user then 1 else 0 := by
  have counted := Tables.countP_modify
    (fun record : ExperimentRecord => record.Live ∧ record.Of user) update found
  change (service.records.modify experiment update).countP _ ≤ service.records.countP _ + _
  have sameOf : (update record).Of user ↔ record.Of user := by
    unfold Of
    rw [sameUser]
  by_cases isOf : record.Of user
  · rw [if_pos isOf]
    split_ifs at counted <;> omega
  · have notAfter : ¬ ((update record).Live ∧ (update record).Of user) :=
      fun after => isOf (sameOf.mp after.2)
    rw [if_neg notAfter] at counted
    rw [if_neg isOf]
    omega

theorem getElem?_change (other : Nat) (different : other ≠ experiment) :
    (service.change experiment update).records[other]? = service.records[other]? :=
  List.getElem?_modify_ne update service.records different.symm

theorem getElem?_change_self (update : ExperimentRecord → ExperimentRecord)
    (found : service.records[experiment]? = some record) :
    (service.change experiment update).records[experiment]? = some (update record) := by
  unfold change
  rw [List.getElem?_modify_eq, found]
  rfl

/-- A change of a record no resume holds keeps the service sound when it makes
nothing live, and leaves live a record whose run has yet to start. -/
theorem change_sound (sound : Sound service)
    (unheld : ∀ pending ∈ service.resuming, pending.experiment ≠ experiment)
    (found : service.records[experiment]? = some record)
    (sameUser : (update record).userId = record.userId)
    (noNew : (update record).Live → record.Live ∧ (update record).inMemory)
    (staysLive : record.Live → (update record).Live ∨ experiment ∉ service.starting)
    (kept : ∀ background ∈ service.runs, background.experiment = experiment →
      (update record).Busy → (update record).Kept) : Sound (service.change experiment update) := by
  have self := getElem?_change_self update found
  refine ⟨fun user => ?_, sound.exclusive, fun pending isPending => ?_,
    fun other isStarting => ?_, fun background member => ?_,
    fun other changed isFound isLive => ?_⟩
  · have within := sound.within user
    have fewer := live_change_le found sameUser (fun isLive => (noNew isLive).1) user
    change (service.change experiment update).live user +
      service.submitReserve user + service.resumeReserve user ≤ limit user
    omega
  · obtain ⟨notStarting, resumed, isFound, rest⟩ := sound.resumed pending isPending
    refine ⟨notStarting, resumed, ?_, rest⟩
    rw [getElem?_change _ (unheld pending isPending)]
    exact isFound
  · obtain ⟨noRun, started, isFound, isLive⟩ := sound.started other isStarting
    refine ⟨noRun, ?_⟩
    by_cases same : other = experiment
    · subst same
      obtain rfl : record = started := by
        rw [found] at isFound
        exact Option.some.inj isFound
      exact ⟨_, self, (staysLive isLive).resolve_right (not_not.mpr isStarting)⟩
    · refine ⟨started, ?_, isLive⟩
      rw [getElem?_change _ same]
      exact isFound
  · obtain ⟨ran, isFound, keeps⟩ := sound.running background member
    by_cases same : background.experiment = experiment
    · refine ⟨_, ?_, kept background member same⟩
      rw [same]
      exact self
    · refine ⟨ran, ?_, keeps⟩
      rw [getElem?_change _ same]
      exact isFound
  · by_cases same : other = experiment
    · subst same
      rw [self] at isFound
      rw [← Option.some.inj isFound] at isLive ⊢
      exact .inl (noNew isLive).2
    · rw [getElem?_change _ same] at isFound
      exact sound.loaded other changed isFound isLive

theorem setPhase_sound (sound : Sound service) (run : Nat) (phase : RunPhase) :
    Sound (service.setPhase run phase) := by
  have sameExperiments : ∀ background ∈ (service.setPhase run phase).runs,
      ∃ known ∈ service.runs, known.experiment = background.experiment := by
    intro background member
    obtain ⟨index, isAt⟩ := List.mem_iff_getElem?.mp member
    unfold setPhase at isAt
    rw [List.getElem?_modify] at isAt
    obtain ⟨known, isKnown, isBackground⟩ := Option.map_eq_some_iff.mp isAt
    refine ⟨known, List.mem_of_getElem? isKnown, ?_⟩
    rw [← isBackground]
    split
    · rfl
    · rfl
  refine ⟨sound.within, sound.exclusive, sound.resumed,
    fun experiment isStarting => ?_, fun background member => ?_, sound.loaded⟩
  · obtain ⟨noRun, isLive⟩ := sound.started experiment isStarting
    refine ⟨fun background member => ?_, isLive⟩
    obtain ⟨known, isKnown, same⟩ := sameExperiments background member
    rw [← same]
    exact noRun known isKnown
  · obtain ⟨known, isKnown, same⟩ := sameExperiments background member
    rw [← same]
    exact sound.running known isKnown

/-! ## Steps under the state lock -/

theorem getRecord_some {userId : String}
    (isRecord : service.getRecord userId experiment = some record) :
    service.resuming = none ∧ service.records[experiment]? = some record ∧
      record.Kept ∧ record.userId = userId := by
  unfold getRecord at isRecord
  split at isRecord
  · next isFree =>
      obtain ⟨isAt, isFound⟩ := Option.filter_eq_some_iff.mp isRecord
      obtain ⟨isKept, isOf⟩ := of_decide_eq_true isFound
      exact ⟨isFree, isAt, isKept, isOf⟩
  · exact absurd isRecord (by simp)

theorem runAt_some {run : Nat} {phase : RunPhase} {background : BackgroundRun}
    (isRun : service.runAt run phase = some background) :
    service.resuming = none ∧ background ∈ service.runs := by
  unfold runAt at isRun
  split at isRun
  · next isFree =>
      obtain ⟨isAt, _⟩ := Option.filter_eq_some_iff.mp isRun
      exact ⟨isFree, List.mem_of_getElem? isAt⟩
  · exact absurd isRun (by simp)

theorem unheld_of_free (isFree : service.resuming = none) (experiment : Nat) :
    ∀ pending ∈ service.resuming, pending.experiment ≠ experiment := by
  rw [isFree]
  simp

section

variable (sound : Sound service)

include sound

section

variable (userId : String) (experiment : Nat)

theorem cancel_sound : Sound (service.step (.cancel userId experiment)) := by
  dsimp only [step]
  split
  · next record isRecord =>
      obtain ⟨isFree, found, isKept, _⟩ := getRecord_some isRecord
      split
      · next isBusy =>
          exact change_sound sound (unheld_of_free isFree experiment) found rfl
            (fun _ => ⟨⟨isKept, .inl isBusy⟩, rfl⟩)
            (fun _ => .inl live_cancel)
            fun _ _ _ busy => absurd busy (by
              simp [Busy, cancel, put])
      · exact sound
  · exact sound

theorem delete_sound : Sound (service.step (.delete userId experiment)) := by
  dsimp only [step]
  split
  · next record isRecord =>
      obtain ⟨isFree, found, _, _⟩ := getRecord_some isRecord
      split
      · exact sound
      · next isIdle =>
          exact change_sound sound (unheld_of_free isFree experiment) found rfl
            (fun isLive => absurd isLive not_live_delete)
            (fun isLive => absurd isLive.2 isIdle)
            fun _ _ _ busy => absurd (.inl busy) isIdle
  · exact sound

end

theorem run_sound {background : BackgroundRun} (isFree : service.resuming = none)
    (member : background ∈ service.runs) (update : ExperimentRecord → ExperimentRecord)
    (sameUser : ∀ record, (update record).userId = record.userId)
    (noNew : ∀ record, service.records[background.experiment]? = some record → (record.Busy → record.Kept) → (record.Live → record.inMemory) → (update record).Live → record.Live ∧ (update record).inMemory)
    (kept : ∀ record, (update record).Busy → (update record).Kept) :
    Sound (service.change background.experiment update) := by
  obtain ⟨record, found, keeps⟩ := sound.running background member
  have inMemory : record.Live → record.inMemory := by
    intro isLive
    refine (sound.loaded _ record found isLive).resolve_right ?_
    rw [isFree]
    simp
  exact change_sound sound (unheld_of_free isFree _) found (sameUser record)
    (noNew record found keeps inMemory)
    (fun _ => .inr fun isStarting => (sound.started _ isStarting).1 background member rfl)
    (fun _ _ _ => kept record)

theorem runStart_sound (run : Nat) (counted : service.StepCounted (.runStart run)) :
    Sound (service.step (.runStart run)) := by
  dsimp only [step]
  split
  · next background isRun =>
      obtain ⟨isFree, member⟩ := runAt_some isRun
      apply setPhase_sound
      refine run_sound sound isFree member _ ?_ ?_ ?_
      · intro record
        unfold start
        split <;> rfl
      · intro record found _ _ isLive
        have live := counted background isRun record found
        unfold start at isLive ⊢
        split at isLive
        · exact absurd isLive not_live_settleCancelled
        · next notAsked =>
            rw [if_neg notAsked]
            exact ⟨live.resolve_left notAsked, rfl⟩
      · intro record _
        unfold start
        split <;> exact .inl rfl
  · exact sound

theorem runFinish_sound (run : Nat) (outcome : RunOutcome) :
    Sound (service.step (.runFinish run outcome)) := by
  dsimp only [step]
  split
  · next background isRun =>
      obtain ⟨isFree, member⟩ := runAt_some isRun
      apply setPhase_sound
      have cases (record : ExperimentRecord) : record.finish outcome = record.settleCancelled ∨
            ∃ status cancelRequested, (status = .completed ∨ status = .failed) ∧
              record.finish outcome = { record with
                  status := status
                  cancelRequested := cancelRequested } := by
        cases outcome with
        | raised => exact .inr ⟨_, _, .inr rfl, rfl⟩
        | cancelled => exact .inl rfl
        | completed =>
          by_cases isAsked : record.cancelRequested
          · exact .inl (if_pos isAsked)
          · exact .inr ⟨_, record.cancelRequested, .inl rfl, if_neg isAsked⟩
      have notBusy (record : ExperimentRecord) : ¬ (record.finish outcome).Busy := by
        rcases cases record with isSettled | ⟨status, asked, isEnd, isChanged⟩
        · rw [isSettled]
          simp [Busy, settleCancelled, put]
        · rw [isChanged]
          rcases isEnd with rfl | rfl
          · simp [Busy]
          · simp [Busy]
      refine run_sound sound isFree member _ ?_ ?_ ?_
      · intro record
        rcases cases record with isSettled | ⟨status, asked, _, isChanged⟩
        · rw [isSettled]
          rfl
        · rw [isChanged]
      · intro record _ _ inMemory isLive
        rcases cases record with isSettled | ⟨status, asked, _, isChanged⟩
        · rw [isSettled] at isLive
          exact absurd isLive not_live_settleCancelled
        · have settling := isLive.2.resolve_left (notBusy record)
          have isKept := isLive.1
          rw [isChanged] at settling isKept ⊢
          have wasLive : record.Live := ⟨isKept, .inr settling⟩
          exact ⟨wasLive, inMemory wasLive⟩
      · intro record busy
        exact absurd busy (notBusy record)
  · exact sound

theorem runLeave_sound (run : Nat) : Sound (service.step (.runLeave run)) := by
  dsimp only [step]
  split
  · next background isRun =>
      obtain ⟨isFree, member⟩ := runAt_some isRun
      apply setPhase_sound
      refine run_sound sound isFree member _ ?_ ?_ ?_
      · exact fun record => rfl
      · intro record _ keeps _ isLive
        have isBusy : record.Busy := by
          simpa [Live, leave,
            put, Busy] using isLive
        exact ⟨⟨keeps isBusy, .inl isBusy⟩, rfl⟩
      · exact fun record _ => .inl rfl
  · exact sound

end

/-! ## Submitting and resuming -/

theorem checkUser_ok {userId : String} (isOk : service.checkUser userId = .ok ()) :
    service.active (some userId) < maxActiveExperimentsPerUser := by
  unfold checkUser at isOk
  split at isOk
  · exact absurd isOk (by simp)
  · next room => exact Nat.lt_of_not_le room

theorem checkTotal_ok (isOk : service.checkTotal = .ok ()) :
    service.active none < maxActiveExperiments := by
  unfold checkTotal at isOk
  split at isOk
  · exact absurd isOk (by simp)
  · next room => exact Nat.lt_of_not_le room

section

variable (sound : Sound service)

include sound

theorem release_sound : Sound { service with submitting := none } := by
  refine ⟨fun user => ?_, fun _ _ _ => rfl, sound.resumed, sound.started,
    sound.running, sound.loaded⟩
  have within := sound.within user
  change service.live user + 0 + service.resumeReserve user ≤ limit user
  omega

theorem submitCheckUser_sound (userId : String)
    (counted : service.StepCounted (.submitCheckUser userId)) :
    Sound (service.step (.submitCheckUser userId)) := by
  dsimp only [step]
  split
  · next isFree =>
      split
      · next isOk =>
          have room := counted (checkUser_ok isOk)
          refine ⟨fun user => ?_, fun pending isPending isFirst =>
            absurd isFirst (isFree.2 pending isPending), sound.resumed,
            sound.started, sound.running, sound.loaded⟩
          have within := sound.within user
          cases user with
          | none =>
            change service.live none + 0 + service.resumeReserve none ≤ _
            omega
          | some other =>
            change service.live (some other) + (if userId = other then 1 else 0) +
                service.resumeReserve (some other) ≤ limit (some other)
            split
            · next same =>
                subst same
                change _ ≤ maxActiveExperimentsPerUser
                omega
            · omega
      · exact sound
  · exact sound

theorem submitCheckTotal_sound (counted : service.StepCounted .submitCheckTotal) :
    Sound (service.step .submitCheckTotal) := by
  dsimp only [step]
  split
  · next userId isSubmit =>
      split
      · next isOk =>
          have room := counted (checkTotal_ok isOk)
          refine ⟨fun user => ?_, fun pending isPending isFirst =>
            absurd (sound.exclusive pending isPending isFirst) (by simp [isSubmit]), sound.resumed,
            sound.started, sound.running, sound.loaded⟩
          have within := sound.within user
          cases user with
          | none =>
            change service.live none + 1 + service.resumeReserve none ≤ maxActiveExperiments
            omega
          | some other =>
            have same : service.submitReserve (some other) = if userId = other then 1 else 0 := by
              simp [submitReserve, isSubmit]
            rw [same] at within
            exact within
      · exact release_sound sound
  · exact sound

theorem submitPut_sound (reserved : Bool) : Sound (service.step (.submitPut reserved)) := by
  dsimp only [step]
  split
  · next userId isSubmit =>
      split
      · have inRange : ∀ {experiment record}, service.records[experiment]? = some record →
              experiment < service.records.length :=
          fun found => (List.getElem?_eq_some_iff.mp found).1
        have older : ∀ {experiment record} (added : ExperimentRecord),
            service.records[experiment]? = some record →
              (service.records ++ [added])[experiment]? = some record :=
          fun added found => by
            rw [List.getElem?_append_left (inRange found)]
            exact found
        refine ⟨fun user => ?_, fun _ _ _ => rfl, fun pending isPending => ?_,
          fun experiment isStarting => ?_, fun background member => ?_,
          fun experiment record found isLive => ?_⟩
        · have within := sound.within user
          have added : (service.records ++ [({ userId := userId, status := .queued } :
                ExperimentRecord)]).countP (fun record => record.Live ∧ record.Of user) =
              service.live user + service.submitReserve user := by
            rw [List.countP_append, List.countP_singleton]
            cases user with
            | none => simp [live, submitReserve, isSubmit,
                Live, Busy,
                Of]
            | some => simp [live, submitReserve, isSubmit,
                Live, Busy,
                Of]
          change (service.records ++ _).countP _ + 0 + service.resumeReserve user ≤ limit user
          rw [added]
          exact within
        · obtain ⟨notStarting, record, found, rest⟩ := sound.resumed pending isPending
          refine ⟨?_, record, older _ found, rest⟩
          rw [List.mem_cons, not_or]
          exact ⟨Nat.ne_of_lt (inRange found), notStarting⟩
        · rcases List.mem_cons.mp isStarting with rfl | isStarting
          · refine ⟨fun background member => ?_, _, List.getElem?_concat_length, ?_⟩
            · obtain ⟨record, found, _⟩ := sound.running background member
              exact Nat.ne_of_lt (inRange found)
            · simp [Live, Busy]
          · obtain ⟨noRun, record, found, isLive⟩ := sound.started experiment isStarting
            exact ⟨noRun, record, older _ found, isLive⟩
        · obtain ⟨record, found, keeps⟩ := sound.running background member
          exact ⟨record, older _ found, keeps⟩
        · rcases Nat.lt_or_ge experiment service.records.length with old | isNew
          · rw [List.getElem?_append_left old] at found
            exact sound.loaded experiment record found isLive
          · rw [List.getElem?_append_right isNew] at found
            left
            rw [List.mem_singleton.mp (List.mem_of_getElem? found)]
      · exact release_sound sound
  · exact sound

theorem submitStart_sound (experiment : Nat) (accepted : Bool) :
    Sound (service.step (.submitStart experiment accepted)) := by
  dsimp only [step]
  split
  · next isStarting =>
      obtain ⟨noRun, record, found, isLive⟩ := sound.started experiment isStarting
      have fewer : ∀ other ∈ service.starting.filter (· ≠ experiment),
          other ∈ service.starting ∧ other ≠ experiment := by
        intro other member
        simpa using List.mem_filter.mp member
      have released : Sound { service with
          starting := service.starting.filter (· ≠ experiment) } := by
        refine ⟨sound.within, sound.exclusive, fun pending isPending => ?_,
          fun other member => sound.started other (fewer other member).1,
          sound.running, sound.loaded⟩
        obtain ⟨notStarting, rest⟩ := sound.resumed pending isPending
        exact ⟨fun member => notStarting (fewer _ member).1, rest⟩
      split
      · refine ⟨released.within, released.exclusive, released.resumed,
          fun other member => ?_, fun background member => ?_, released.loaded⟩
        · obtain ⟨otherRuns, otherLive⟩ := released.started other member
          refine ⟨fun background isRun => ?_, otherLive⟩
          rcases List.mem_append.mp isRun with old | isNew
          · exact otherRuns background old
          · rw [List.mem_singleton.mp isNew]
            exact (fewer other member).2.symm
        · rcases List.mem_append.mp member with old | isNew
          · exact released.running background old
          · rw [List.mem_singleton.mp isNew]
            exact ⟨record, found, fun _ => isLive.1⟩
      · have unheld : ∀ pending ∈ service.resuming, pending.experiment ≠ experiment := by
          intro pending isPending same
          exact (sound.resumed pending isPending).1 (same ▸ isStarting)
        refine change_sound released unheld found rfl
          (fun isLive => absurd isLive not_live_delete)
          (fun _ => .inr fun member => (fewer _ member).2 rfl) ?_
        intro background member same
        exact absurd same (noRun background member)
  · exact sound

theorem giveUp_sound
    (unmarked : ∀ pending ∈ service.resuming, ∀ previous, pending.phase ≠ .marked previous) :
    Sound { service with resuming := none } := by
  refine ⟨fun user => ?_, nofun,
    nofun, sound.started, sound.running,
    fun experiment record found isLive => ?_⟩
  · have within := sound.within user
    change service.live user + service.submitReserve user + 0 ≤ limit user
    omega
  · refine .inl ((sound.loaded experiment record found isLive).resolve_right ?_)
    rintro ⟨pending, isPending, _, previous, isMarked⟩
    exact unmarked pending isPending previous isMarked

theorem resumeCheckUser_sound (userId : String) (experiment : Nat) (valid : Bool) :
    Sound (service.step (.resumeCheckUser userId experiment valid)) := by
  dsimp only [step]
  split
  · next record isRecord =>
      obtain ⟨isFree, found, isKept, isOf⟩ := getRecord_some isRecord
      split
      · next mayResume =>
          obtain ⟨isCancelled, notSettling, _, submitFree, _⟩ := mayResume
          have notLive : ¬ record.Live := by
            simp [Live, Busy, isCancelled, notSettling]
          split
          · next isOk =>
              have unmarked : ∀ pending ∈ service.resuming, ∀ previous,
                  pending.phase ≠ .marked previous := by
                rw [isFree]
                simp
              have room := checkUser_ok isOk
              rw [← live_eq_active sound unmarked] at room
              refine ⟨fun user => ?_, fun _ _ _ => submitFree,
                fun pending isPending => ?_, sound.started, sound.running,
                fun other known isFound isLive => ?_⟩
              · have within := sound.within user
                have noSubmit : service.submitReserve user = 0 := by
                  simp [submitReserve, submitFree]
                change service.live user + service.submitReserve user + _ ≤ limit user
                rw [noSubmit] at within ⊢
                cases user with
                | none =>
                  change service.live none + 0 + 0 ≤ limit none
                  omega
                | some other =>
                  change service.live (some other) + 0 +
                    (if userId = other then 1 else 0) ≤ limit (some other)
                  split
                  · next same =>
                      subst same
                      change _ ≤ maxActiveExperimentsPerUser
                      omega
                  · omega
              · obtain rfl := Option.mem_some.mp isPending
                refine ⟨fun isStarting => ?_, record, found, isOf, isKept, notLive⟩
                obtain ⟨_, started, isStarted, isLive⟩ := sound.started experiment isStarting
                rw [found] at isStarted
                exact notLive (Option.some.inj isStarted ▸ isLive)
              · refine .inl ((sound.loaded other known isFound isLive).resolve_right ?_)
                rw [isFree]
                simp
          · exact sound
      · exact sound
  · exact sound

theorem resumeCheckTotal_sound (reserved : Bool) :
    Sound (service.step (.resumeCheckTotal reserved)) := by
  dsimp only [step]
  split
  · next userId experiment isResume =>
      have unmarked : ∀ pending ∈ service.resuming, ∀ previous,
          pending.phase ≠ .marked previous := by
        rw [isResume]
        simp
      split
      · next isOk =>
          have room := checkTotal_ok isOk
          rw [← live_eq_active sound unmarked] at room
          have noSubmit := sound.exclusive _ (Option.mem_def.mpr isResume) rfl
          refine ⟨fun user => ?_, fun pending isPending isFirst => ?_,
            fun pending isPending => ?_, sound.started, sound.running,
            fun other known isFound isLive => ?_⟩
          · have within := sound.within user
            have noReserve : service.submitReserve user = 0 := by simp [submitReserve, noSubmit]
            cases user with
            | none =>
              change service.live none + service.submitReserve none + 1 ≤ maxActiveExperiments
              omega
            | some other =>
              have same : service.resumeReserve (some other) = if userId = other then 1 else 0 := by
                simp [resumeReserve, isResume]
              rw [same] at within
              exact within
          · obtain rfl := Option.mem_some.mp isPending
            exact absurd isFirst (by simp)
          · obtain rfl := Option.mem_some.mp isPending
            obtain ⟨notStarting, record, resumed⟩ := sound.resumed _ (Option.mem_def.mpr isResume)
            exact ⟨notStarting, record, resumed⟩
          · refine .inl ((sound.loaded other known isFound isLive).resolve_right ?_)
            rintro ⟨pending, isPending, _, previous, isMarked⟩
            exact unmarked pending isPending previous isMarked
      · exact giveUp_sound sound unmarked
  · exact sound

theorem resumeMark_sound : Sound (service.step .resumeMark) := by
  dsimp only [step]
  split
  · next userId experiment isResume =>
      obtain ⟨notStarting, record, found, isOf, isKept, notLive⟩ :=
        sound.resumed _ (Option.mem_def.mpr isResume)
      dsimp only at notStarting found isOf notLive
      rw [found]
      have self := getElem?_change_self mark found
      refine ⟨fun user => ?_, fun pending isPending isFirst => ?_,
        fun pending isPending => ?_, fun other isStarting => ?_,
        fun background member => ?_, fun other known isFound isLive => ?_⟩
      · have within := sound.within user
        have more := live_change_le_succ mark found rfl user
        change (service.change experiment .mark).live user +
          service.submitReserve user + 0 ≤ limit user
        have place : (if record.Of user then 1 else 0) = service.resumeReserve user := by
          cases user with
          | none => simp [resumeReserve, isResume, Of]
          | some => simp [resumeReserve, isResume, Of, isOf]
        omega
      · obtain rfl := Option.mem_some.mp isPending
        exact absurd isFirst (by simp)
      · obtain rfl := Option.mem_some.mp isPending
        exact ⟨notStarting, _, self, isOf, isKept, rfl, notLive⟩
      · obtain ⟨noRun, started, isStarted, isLive⟩ := sound.started other isStarting
        refine ⟨noRun, started, ?_, isLive⟩
        have different : other ≠ experiment := fun same => notStarting (same ▸ isStarting)
        exact (getElem?_change other different).trans isStarted
      · obtain ⟨ran, isRan, keeps⟩ := sound.running background member
        by_cases same : background.experiment = experiment
        · refine ⟨record.mark, ?_, fun _ => isKept⟩
          rw [same]
          exact self
        · exact ⟨ran, (getElem?_change _ same).trans isRan, keeps⟩
      · by_cases same : other = experiment
        · exact .inr ⟨_, rfl, same.symm, record, rfl⟩
        · refine .inl ((sound.loaded other known
            ((getElem?_change other same).symm.trans isFound) isLive).resolve_right ?_)
          rintro ⟨pending, isPending, isOther, _⟩
          rw [isResume] at isPending
          obtain rfl := Option.mem_some.mp isPending
          exact same isOther.symm
  · exact sound

/-- Once a resume has marked its record, it starts its run or puts back what the
record was. -/
theorem resumeStart_sound (accepted : Bool) : Sound (service.step (.resumeStart accepted)) := by
  dsimp only [step]
  split
  · next userId experiment previous isResume =>
      obtain ⟨notStarting, record, found, isOf, isKept, isMarked, notLive⟩ :=
        sound.resumed _ (Option.mem_def.mpr isResume)
      dsimp only at notStarting found isOf
      subst isMarked
      have wasLive : previous.mark.Live := ⟨isKept, .inl (.inl rfl)⟩
      have fewer (update : ExperimentRecord → ExperimentRecord)
          (sameUser : (update previous.mark).userId = previous.mark.userId)
          (inMemory : (update previous.mark).Live → (update previous.mark).inMemory)
          (kept : (update previous.mark).Busy → (update previous.mark).Kept) :
          Sound ({ service with resuming := none }.change experiment update) := by
        have self := getElem?_change_self update found
        refine ⟨fun user => ?_, fun _ isPending => absurd isPending (by
          simp [change]), fun _ isPending => absurd isPending (by
            simp [change]), fun other isStarting => ?_,
          fun background member => ?_, fun other known isFound isLive => ?_⟩
        · have within := sound.within user
          have less := live_change_le found sameUser (fun _ => wasLive) user
          change (service.change experiment update).live user +
            service.submitReserve user + 0 ≤ limit user
          omega
        · obtain ⟨noRun, started, isStarted, isLive⟩ := sound.started other isStarting
          have different : other ≠ experiment := fun same => notStarting (same ▸ isStarting)
          exact ⟨noRun, started, (getElem?_change other different).trans isStarted, isLive⟩
        · obtain ⟨ran, isRan, keeps⟩ := sound.running background member
          by_cases same : background.experiment = experiment
          · refine ⟨update previous.mark, ?_, kept⟩
            rw [same]
            exact self
          · exact ⟨ran, (getElem?_change _ same).trans isRan, keeps⟩
        · by_cases same : other = experiment
          · subst same
            cases self.symm.trans isFound
            exact .inl (inMemory isLive)
          · refine .inl ((sound.loaded other known
              ((getElem?_change other same).symm.trans isFound) isLive).resolve_right ?_)
            rintro ⟨pending, isPending, isOther, _⟩
            rw [isResume] at isPending
            obtain rfl := Option.mem_some.mp isPending
            exact same isOther.symm
      split
      · have resumed := fewer .put rfl (fun _ => rfl) fun _ => .inl rfl
        refine ⟨resumed.within, resumed.exclusive, resumed.resumed,
          fun other isStarting => ?_, fun background member => ?_,
          resumed.loaded⟩
        · obtain ⟨noRun, isLive⟩ := resumed.started other isStarting
          refine ⟨fun background member => ?_, isLive⟩
          rcases List.mem_append.mp member with old | isNew
          · exact noRun background old
          · rw [List.mem_singleton.mp isNew]
            rintro rfl
            exact notStarting isStarting
        · rcases List.mem_append.mp member with old | isNew
          · exact resumed.running background old
          · rw [List.mem_singleton.mp isNew]
            exact ⟨_, getElem?_change_self .put found, fun _ => .inl rfl⟩
      · exact fewer (fun _ => previous) rfl (fun isLive => absurd isLive notLive) fun _ => isKept
  · exact sound

theorem step_sound (next : ServiceStep) (counted : service.StepCounted next) :
    Sound (service.step next) := by
  cases next with
  | submitCheckUser userId => exact submitCheckUser_sound sound userId counted
  | submitCheckTotal => exact submitCheckTotal_sound sound counted
  | submitPut reserved => exact submitPut_sound sound reserved
  | submitStart experiment accepted => exact submitStart_sound sound experiment accepted
  | resumeCheckUser userId experiment valid =>
    exact resumeCheckUser_sound sound userId experiment valid
  | resumeCheckTotal reserved => exact resumeCheckTotal_sound sound reserved
  | resumeMark => exact resumeMark_sound sound
  | resumeStart accepted => exact resumeStart_sound sound accepted
  | cancel userId experiment => exact cancel_sound sound userId experiment
  | delete userId experiment => exact delete_sound sound userId experiment
  | runStart run => exact runStart_sound sound run counted
  | runFinish run outcome => exact runFinish_sound sound run outcome
  | runLeave run => exact runLeave_sound sound run

end

end ExperimentService

/-! ## Whole runs -/

/-- The service from the records that an earlier process left, and its steps. -/
structure ServiceRun where
  stored : List ExperimentRecord
  idle : ∀ record ∈ stored, ¬ record.Live
  steps : Nat → ServiceStep

namespace ServiceRun

variable (run : ServiceRun)

/-- The service before step `n`. -/
def serviceAt (n : Nat) : ExperimentService :=
  Machine.stateAt ExperimentService.step { records := run.stored } run.steps n

/-- Every step finds right what it counts. -/
def Counted : Prop := ∀ n, (run.serviceAt n).StepCounted (run.steps n)

/-- No user has more live experiments than the quota for one user, and all of
them together have no more than the quota in total. -/
def WithinQuotas : Prop :=
  ∀ n, (∀ userId, (run.serviceAt n).live (some userId) ≤ maxActiveExperimentsPerUser) ∧
    (run.serviceAt n).live none ≤ maxActiveExperiments

theorem sound (counted : run.Counted) (n : Nat) : (run.serviceAt n).Sound := by
  apply Machine.invariant_at fun _ => ExperimentService.Sound
  · have noneLive (user : Option String) :
        ({ records := run.stored } : ExperimentService).live user = 0 := by
      apply List.countP_eq_zero.mpr
      intro record member isCounted
      exact run.idle record member (of_decide_eq_true isCounted).1
    refine ⟨fun user => ?_, by simp, by simp, by simp, by simp,
      fun experiment record found isLive => ?_⟩
    · rw [noneLive]
      exact Nat.zero_le _
    · exact absurd isLive (run.idle record (List.mem_of_getElem? found))
  · intro n isSound
    exact ExperimentService.step_sound isSound (run.steps n) (counted n)

/-- In a run that finds right what it counts, the quotas are kept at every
moment. -/
theorem withinQuotas (counted : run.Counted) : run.WithinQuotas := by
  intro n
  have sound := run.sound counted n
  refine ⟨fun userId => ?_, ?_⟩
  · have within := sound.within (some userId)
    change _ ≤ maxActiveExperimentsPerUser at within
    omega
  · have within := sound.within none
    change _ ≤ maxActiveExperiments at within
    omega

/-- A cancelled experiment is resumed and cancelled again while another user's
is submitted, run and deleted. -/
def resumedBesideSubmit : ServiceRun where
  stored := [{ userId := "ada", status := .cancelled, inMemory := false }]
  idle := by decide
  steps
    | 0 => .resumeCheckUser "ada" 0 true
    | 1 => .resumeCheckTotal true
    | 2 => .submitCheckUser "ben"
    | 3 => .submitCheckTotal
    | 4 => .resumeMark
    | 5 => .submitPut true
    | 6 => .resumeStart true
    | 7 => .submitStart 1 true
    | 8 => .runStart 0
    | 9 => .runStart 1
    | 10 => .cancel "ada" 0
    | 11 => .runFinish 0 .cancelled
    | 12 => .runLeave 0
    | 13 => .runFinish 1 .completed
    | 14 => .runLeave 1
    | _ => .delete "ben" 1

theorem resumedBesideSubmit_counted : resumedBesideSubmit.Counted := by
  intro n
  match n with
  | 0 | 1 | 4 | 5 | 6 | 7 | 10 | 11 | 12 | 13 | 14 => trivial
  | 2 =>
    change _ < maxActiveExperimentsPerUser → _ < maxActiveExperimentsPerUser
    decide
  | 3 =>
    change _ < maxActiveExperiments → _ < maxActiveExperiments
    decide
  | 8 =>
    change ∀ background ∈ _, ∀ record ∈ _, _
    decide
  | 9 =>
    change ∀ background ∈ _, ∀ record ∈ _, _
    decide
  | n + 15 => trivial

theorem resumedBesideSubmit_within : resumedBesideSubmit.WithinQuotas :=
  withinQuotas resumedBesideSubmit resumedBesideSubmit_counted

/-- While a resume has passed its checks and not yet marked its experiment, its
user submits another. -/
def resumedAndSubmitted : ServiceRun where
  stored := [{ userId := "ada", status := .cancelled, inMemory := false }]
  idle := by decide
  steps
    | 0 => .resumeCheckUser "ada" 0 true
    | 1 => .resumeCheckTotal true
    | 2 => .submitCheckUser "ada"
    | 3 => .submitCheckTotal
    | 4 => .submitPut true
    | 5 => .resumeMark
    | _ => .resumeStart true

/-- The user then has two live experiments. -/
theorem resumedAndSubmitted_two : ¬ (resumedAndSubmitted.serviceAt 7).live (some "ada") ≤
      maxActiveExperimentsPerUser := by
  decide

end ServiceRun
end UrbanFlow
