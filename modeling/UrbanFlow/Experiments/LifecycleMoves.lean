import UrbanFlow.Experiments.Lifecycle

/-!
# Where an experiment stands

Who is responsible for an experiment, and what its record then says. The steps of
a submission and of a resume leave every experiment where it stands or move it
on.
-/

namespace UrbanFlow

open TrackedService ExperimentRecord

attribute [local simp] ExperimentService.change

/-- Who is responsible for an experiment: nobody, the submission that stored it,
a run that has yet to begin, a run at work, or the resume that has marked it. -/
inductive Charge
  | nobody
  | submission
  | waiting (run : Nat)
  | working (run : Nat)
  | resume (previous : ExperimentRecord)
  deriving DecidableEq, Repr

namespace ExperimentRecord

/-- A record whose run has yet to begin: queued, or cancelled since. -/
def Waits (record : ExperimentRecord) : Prop :=
  (record.status = .queued ∧ record.cancelRequested = false ∧ record.settling = false) ∨
    (record.status = .cancelled ∧ record.cancelRequested = true ∧ record.settling = true)

/-- What the record of an experiment says, and the `Progress` of its run. -/
def Fits (progress : Option Nat) (cancelled : Nat → Bool)
    (record : ExperimentRecord) : Charge → Prop
  | .nobody => record.Kept → ¬ record.Busy ∧ record.settling = false
  | .submission => record.Waits
  | .waiting _ => record.Waits
  | .working run =>
    (record.status = .running ∧ record.cancelRequested = false ∧
        record.settling = false ∧ progress = some run) ∨
      (record.status = .cancelled ∧ record.cancelRequested = true ∧
        record.settling = true ∧ cancelled run = true)
  | .resume previous =>
    (record.status = .queued ∧ record.cancelRequested = false ∧ record.settling = false) ∧
      previous.status = .cancelled ∧ previous.settling = false

end ExperimentRecord

namespace TrackedService

open ExperimentService

variable {service : ExperimentService} {run : Nat} {background : BackgroundRun}

structure Stands (tracked : TrackedService) (experiment : Nat) (charge : Charge) : Prop where
  starting : experiment ∈ tracked.service.starting ↔ charge = .submission
  going : ∀ index background, tracked.service.runs[index]? = some background →
      background.experiment = experiment →
        (background.phase = .submitted → charge = .waiting index) ∧
          (background.phase = .working → charge = .working index)
  working : ∀ index, charge = .working index →
    tracked.service.runs[index]? = some ⟨experiment, .working⟩
  resuming : ∀ pending ∈ tracked.service.resuming, pending.experiment = experiment →
      match pending.phase with
      | .marked previous => charge = .resume previous
      | _ => charge = .nobody ∧ ∃ record, tracked.service.records[experiment]? = some record ∧
            record.status = .cancelled ∧ record.settling = false
  resumed : ∀ previous, charge = .resume previous → ∃ userId,
    tracked.service.resuming = some ⟨userId, experiment, .marked previous⟩
  record : ∀ record, tracked.service.records[experiment]? = some record →
    record.Fits (tracked.progress experiment) tracked.cancelled charge
  absent : tracked.service.records.length ≤ experiment → charge = .nobody

/-- A step leaves everything about an experiment. -/
structure Leaves (tracked : TrackedService) (step : ServiceStep) (experiment : Nat) : Prop where
  starting : experiment ∈ (tracked.step step).service.starting ↔
    experiment ∈ tracked.service.starting
  runs : ∀ (index : Nat) (background : BackgroundRun), background.experiment = experiment →
      ((tracked.step step).service.runs[index]? = some background ↔
        tracked.service.runs[index]? = some background)
  resuming : ∀ pending : PendingResume, pending.experiment = experiment →
    ((tracked.step step).service.resuming = some pending ↔ tracked.service.resuming = some pending)
  records : (tracked.step step).service.records[experiment]? = tracked.service.records[experiment]?
  progress : (tracked.step step).progress experiment = tracked.progress experiment
  length : tracked.service.records.length ≤ (tracked.step step).service.records.length

/-- A deleted experiment: nobody has any more to do with it. -/
structure Gone (tracked : TrackedService) (experiment : Nat) : Prop where
  inside : experiment < tracked.service.records.length
  starting : experiment ∉ tracked.service.starting
  going : ∀ (index : Nat) (background : BackgroundRun),
    tracked.service.runs[index]? = some background →
      background.experiment = experiment → ¬ background.Going
  resuming : ∀ pending ∈ tracked.service.resuming, pending.experiment ≠ experiment
  lost : ∀ record, tracked.service.records[experiment]? = some record → ¬ record.Kept

/-- After a step the experiment stands somewhere, its status has moved along its
lifecycle, and it is still gone if it was. -/
structure StepsOn (tracked : TrackedService) (step : ServiceStep) (experiment : Nat) : Prop where
  stands : ∃ charge, (tracked.step step).Stands experiment charge
  moves : ∀ old new : ExperimentRecord, tracked.service.records[experiment]? = some old →
      (tracked.step step).service.records[experiment]? = some new →
        MayMove step old.status new.status
  gone : tracked.Gone experiment → (tracked.step step).Gone experiment

theorem mayMove_refl (step : ServiceStep) (status : ExperimentStatus) :
    MayMove step status status := by
  cases status <;> simp [MayMove]

variable {tracked : TrackedService} {step : ServiceStep} {experiment : Nat} {charge : Charge}

theorem cancelled_step {index : Nat} (isCancelled : tracked.cancelled index = true) :
    (tracked.step step).cancelled index = true := by
  change tracked.cancelledAfter step index = true
  unfold cancelledAfter
  cases (cancelAccepted tracked.service step).bind tracked.progress with
  | none => exact isCancelled
  | some => simp [Function.update_apply, isCancelled]

/-! ## What a step leaves alone -/

theorem Stands.of_leaves (stands : tracked.Stands experiment charge)
    (leaves : tracked.Leaves step experiment) : (tracked.step step).Stands experiment charge where
  starting := leaves.starting.trans stands.starting
  going := by
    intro index background isRun isOf
    exact stands.going index background ((leaves.runs index background isOf).mp isRun) isOf
  working := by
    intro index isWorking
    exact (leaves.runs index _ rfl).mpr (stands.working index isWorking)
  resuming := by
    intro pending isPending isOf
    have wasPending := (leaves.resuming pending isOf).mp isPending
    have standing := stands.resuming pending wasPending isOf
    rwa [leaves.records]
  resumed := by
    intro previous isResume
    obtain ⟨userId, isMarked⟩ := stands.resumed previous isResume
    exact ⟨userId, (leaves.resuming _ rfl).mpr isMarked⟩
  record := by
    intro record isRecord
    rw [leaves.records] at isRecord
    have fits := stands.record record isRecord
    rw [leaves.progress]
    cases charge with
    | working =>
      obtain working | cancelled := fits
      · exact Or.inl working
      · exact Or.inr ⟨cancelled.1, cancelled.2.1, cancelled.2.2.1, cancelled_step cancelled.2.2.2⟩
    | _ => exact fits
  absent := fun tooShort => stands.absent (Nat.le_trans leaves.length tooShort)

theorem StepsOn.of_leaves (stands : tracked.Stands experiment charge)
    (leaves : tracked.Leaves step experiment) : tracked.StepsOn step experiment := by
  refine ⟨⟨charge, stands.of_leaves leaves⟩, ?_, ?_⟩
  · intro old new isOld isNew
    rw [leaves.records, isOld] at isNew
    cases isNew
    exact mayMove_refl step old.status
  · intro gone
    refine ⟨Nat.lt_of_lt_of_le gone.inside leaves.length, ?_, ?_, ?_, ?_⟩
    · rw [leaves.starting]
      exact gone.starting
    · intro index background isRun isOf
      exact gone.going index background ((leaves.runs index background isOf).mp isRun) isOf
    · intro pending isPending isOf
      exact gone.resuming pending ((leaves.resuming pending isOf).mp isPending) isOf
    · rw [leaves.records]
      exact gone.lost

theorem StepsOn.of_record {old new : ExperimentRecord}
    (stands : (tracked.step step).Stands experiment charge)
    (isOld : tracked.service.records[experiment]? = some old)
    (isNew : (tracked.step step).service.records[experiment]? = some new)
    (moves : MayMove step old.status new.status) (notGone : ¬ tracked.Gone experiment) :
    tracked.StepsOn step experiment := by
  refine ⟨⟨charge, stands⟩, ?_, fun gone => absurd gone notGone⟩
  intro held next isHeld isNext
  cases isOld.symm.trans isHeld
  cases isNew.symm.trans isNext
  exact moves

theorem resuming_others {before after : Option PendingResume}
    (wasOther : ∀ pending ∈ before, pending.experiment ≠ experiment)
    (isOther : ∀ pending ∈ after, pending.experiment ≠ experiment) (pending : PendingResume)
    (isOf : pending.experiment = experiment) : after = some pending ↔ before = some pending :=
  ⟨fun isAfter => absurd isOf (isOther pending isAfter),
    fun isBefore => absurd isOf (wasOther pending isBefore)⟩

theorem StepsOn.of_same {submitting : Option PendingSubmit}
    (stands : tracked.Stands experiment charge)
    (same : tracked.service.step step = { tracked.service with submitting := submitting })
    (progress : tracked.progressAfter step experiment = tracked.progress experiment) :
    tracked.StepsOn step experiment := by
  apply StepsOn.of_leaves stands
  refine ⟨?_, ?_, ?_, ?_, progress, ?_⟩
  all_goals simp [TrackedService.step, same]

/-- No run of an experiment is waiting or at work. -/
def NoneGoing (runs : List BackgroundRun) (experiment : Nat) : Prop :=
  ∀ (index : Nat) (background : BackgroundRun), runs[index]? = some background →
    background.experiment = experiment → ¬ background.Going

theorem stands_nobody (notStarting : experiment ∉ tracked.service.starting)
    (noneGoing : NoneGoing tracked.service.runs experiment)
    (resuming : ∀ pending ∈ tracked.service.resuming, pending.experiment = experiment →
      (∀ previous, pending.phase ≠ .marked previous) ∧
        ∃ record, tracked.service.records[experiment]? = some record ∧
          record.status = .cancelled ∧ record.settling = false)
    (rests : ∀ record, tracked.service.records[experiment]? = some record → record.Kept →
      ¬ record.Busy ∧ record.settling = false) : tracked.Stands experiment .nobody where
  starting := ⟨fun isStarting => absurd isStarting notStarting, nofun⟩
  going := by
    intro index background isRun isOf
    have notGoing := noneGoing index background isRun isOf
    exact ⟨fun isPhase => absurd (Or.inl isPhase) notGoing,
      fun isPhase => absurd (Or.inr isPhase) notGoing⟩
  working := nofun
  resuming := by
    intro pending isPending isOf
    obtain ⟨notMarked, found⟩ := resuming pending isPending isOf
    split
    · next previous isMarked => exact absurd isMarked (notMarked previous)
    · exact ⟨rfl, found⟩
  resumed := nofun
  record := rests
  absent := fun _ => rfl

theorem stands_waiting (runs : List BackgroundRun) {record : ExperimentRecord}
    (isRuns : tracked.service.runs = runs ++ [{ experiment := experiment }])
    (noneGoing : NoneGoing runs experiment) (notStarting : experiment ∉ tracked.service.starting)
    (noPending : ∀ pending ∈ tracked.service.resuming, pending.experiment ≠ experiment)
    (isRecord : tracked.service.records[experiment]? = some record) (waits : record.Waits) :
    tracked.Stands experiment (.waiting runs.length) where
  starting := ⟨fun isStarting => absurd isStarting notStarting, nofun⟩
  going := by
    intro index background isRun isOf
    rw [isRuns, List.getElem?_append] at isRun
    split at isRun
    · have notGoing := noneGoing index background isRun isOf
      exact ⟨fun isPhase => absurd (Or.inl isPhase) notGoing,
        fun isPhase => absurd (Or.inr isPhase) notGoing⟩
    · next outside =>
        have isLast : index - runs.length = 0 := by
          by_contra isLater
          rw [List.getElem?_eq_none (by simp; omega)] at isRun
          cases isRun
        rw [isLast] at isRun
        cases isRun
        have isIndex : runs.length = index := by omega
        exact ⟨fun _ => by rw [isIndex], fun isPhase => by cases isPhase⟩
  working := nofun
  resuming := fun pending isPending isOf => absurd isOf (noPending pending isPending)
  resumed := nofun
  record := by
    intro held isHeld
    cases isRecord.symm.trans isHeld
    exact waits
  absent := by
    intro tooShort
    rw [List.getElem?_eq_none tooShort] at isRecord
    cases isRecord

theorem getElem?_setPhase (service : ExperimentService) (run index : Nat) (phase : RunPhase) :
    (service.setPhase run phase).runs[index]? = if run = index then
        service.runs[index]?.map fun background => { background with phase := phase }
      else service.runs[index]? := by
  unfold setPhase
  rw [List.getElem?_modify]
  split
  · rfl
  · simp

theorem getElem?_setPhase_other {mine : BackgroundRun} (isMine : service.runs[run]? = some mine)
    (phase : RunPhase) (index : Nat) (different : background.experiment ≠ mine.experiment) :
    (service.setPhase run phase).runs[index]? = some background ↔
      service.runs[index]? = some background := by
  rw [getElem?_setPhase]
  split
  · next same =>
      subst same
      rw [isMine]
      constructor
      · intro isBackground
        cases isBackground
        exact absurd rfl different
      · intro isBackground
        cases isBackground
        exact absurd rfl different
  · rfl

theorem getElem?_append_other (runs : List BackgroundRun) (added : BackgroundRun) (index : Nat)
    (different : background.experiment ≠ added.experiment) :
    (runs ++ [added])[index]? = some background ↔ runs[index]? = some background := by
  rw [List.getElem?_append]
  split
  · rfl
  · next outside =>
      rw [List.getElem?_eq_none (Nat.le_of_not_lt outside)]
      constructor
      · intro isAdded
        obtain rfl := List.mem_singleton.mp (List.mem_of_getElem? isAdded)
        exact absurd rfl different
      · exact nofun

theorem runAt_eq_some {phase : RunPhase} (isRun : service.runAt run phase = some background) :
    service.resuming = none ∧ service.runs[run]? = some background ∧ background.phase = phase := by
  unfold runAt at isRun
  split at isRun
  · next isFree =>
      obtain ⟨isAt, isPhase⟩ := Option.filter_eq_some_iff.mp isRun
      exact ⟨isFree, isAt, of_decide_eq_true isPhase⟩
  · cases isRun

attribute [local simp] step

/-! ## Submitting -/

section

variable (stands : tracked.Stands experiment charge)

include stands

theorem submitCheckUser_stepsOn (userId : String) :
    tracked.StepsOn (.submitCheckUser userId) experiment := by
  have same : ∃ submitting, tracked.service.step (.submitCheckUser userId) =
      { tracked.service with submitting := submitting } := by
    simp only [ExperimentService.step]
    split
    · split
      · exact ⟨_, rfl⟩
      · exact ⟨_, rfl⟩
    · exact ⟨_, rfl⟩
  obtain ⟨submitting, same⟩ := same
  exact StepsOn.of_same stands same rfl

theorem submitCheckTotal_stepsOn : tracked.StepsOn .submitCheckTotal experiment := by
  have same : ∃ submitting, tracked.service.step .submitCheckTotal =
      { tracked.service with submitting := submitting } := by
    simp only [ExperimentService.step]
    split
    · split
      · exact ⟨_, rfl⟩
      · exact ⟨_, rfl⟩
    · exact ⟨_, rfl⟩
  obtain ⟨submitting, same⟩ := same
  exact StepsOn.of_same stands same rfl

theorem Stands.not_nobody (isCharge : charge ≠ .nobody) :
    ∃ record, tracked.service.records[experiment]? = some record := by
  have inside : experiment < tracked.service.records.length := by
    by_contra outside
    exact isCharge (stands.absent (Nat.le_of_not_lt outside))
  exact ⟨_, List.getElem?_eq_getElem inside⟩

theorem submitPut_stepsOn (reserved : Bool) : tracked.StepsOn (.submitPut reserved) experiment := by
  have cases : (∃ submitting, tracked.service.step (.submitPut reserved) =
      { tracked.service with submitting := submitting }) ∨
      ∃ userId, tracked.service.step (.submitPut reserved) = { tracked.service with
          submitting := none
          records := tracked.service.records ++ [{ userId := userId, status := .queued }]
          starting := tracked.service.records.length :: tracked.service.starting } := by
    simp only [ExperimentService.step]
    split
    · next userId _ =>
        split
        · exact Or.inr ⟨userId, rfl⟩
        · exact Or.inl ⟨_, rfl⟩
    · exact Or.inl ⟨_, rfl⟩
  obtain ⟨_, refused⟩ | ⟨_, stored⟩ := cases
  · exact StepsOn.of_same stands refused rfl
  · by_cases isNew : experiment = tracked.service.records.length
    · obtain rfl := stands.absent (by omega)
      have noRecord : tracked.service.records[experiment]? = none :=
        List.getElem?_eq_none (by omega)
      refine ⟨⟨.submission, ⟨?_, ?_, ?_, ?_, ?_, ?_, ?_⟩⟩, ?_, ?_⟩
      · simp [stored, isNew]
      · intro index background isRun isOf
        simp only [step, stored] at isRun
        have standing := stands.going index background isRun isOf
        exact ⟨fun isPhase => Charge.noConfusion (standing.1 isPhase),
          fun isPhase => Charge.noConfusion (standing.2 isPhase)⟩
      · exact nofun
      · intro pending isPending isOf
        simp only [step, stored] at isPending
        have standing := stands.resuming pending isPending isOf
        split at standing
        · cases standing
        · obtain ⟨_, record, isRecord, _⟩ := standing
          rw [noRecord] at isRecord
          cases isRecord
      · exact nofun
      · intro record isRecord
        simp only [step, stored, isNew,
          List.getElem?_concat_length, Option.some.injEq] at isRecord
        subst isRecord
        exact Or.inl ⟨rfl, rfl, rfl⟩
      · intro tooShort
        simp only [step, stored, List.length_append,
          List.length_singleton] at tooShort
        omega
      · intro old new isOld
        rw [noRecord] at isOld
        cases isOld
      · intro gone
        have inside := gone.inside
        omega
    · apply StepsOn.of_leaves stands
      refine ⟨?_, ?_, ?_, ?_, rfl, ?_⟩
      · simp [stored, isNew]
      · simp [stored]
      · simp [stored]
      · simp only [step, stored, List.getElem?_append]
        split
        · rfl
        · next outside =>
            rw [List.getElem?_eq_none (Nat.le_of_not_lt outside), List.getElem?_eq_none]
            simp only [List.length_singleton]
            omega
      · simp [stored]

theorem Stands.noPending (isCharge : charge ≠ .nobody)
    (notResume : ∀ previous, charge ≠ .resume previous) :
    ∀ pending ∈ tracked.service.resuming, pending.experiment ≠ experiment := by
  intro pending isPending isOf
  have standing := stands.resuming pending isPending isOf
  split at standing
  · exact notResume _ standing
  · exact isCharge standing.1

theorem Stands.noneGoing (notRun : ∀ index, charge ≠ .waiting index ∧ charge ≠ .working index) :
    NoneGoing tracked.service.runs experiment := by
  intro index background isRun isOf isGoing
  have standing := stands.going index background isRun isOf
  obtain isPhase | isPhase := isGoing
  · exact (notRun index).1 (standing.1 isPhase)
  · exact (notRun index).2 (standing.2 isPhase)

end

theorem submitStart_stepsOn (stands : tracked.Stands experiment charge) (started : Nat)
    (accepted : Bool) : tracked.StepsOn (.submitStart started accepted) experiment := by
  by_cases isStarting : started ∈ tracked.service.starting
  · have isStep : tracked.service.step (.submitStart started accepted) = if accepted then
          { tracked.service with
            starting := tracked.service.starting.filter (· ≠ started)
            runs := tracked.service.runs ++ [{ experiment := started }] }
        else
          ({ tracked.service with
            starting := tracked.service.starting.filter
              (· ≠ started) } : ExperimentService).change started .delete := by
      simp only [ExperimentService.step, if_pos isStarting]
    by_cases isOurs : experiment = started
    · subst isOurs
      obtain rfl := stands.starting.mp isStarting
      obtain ⟨record, isRecord⟩ := stands.not_nobody (by simp)
      have waits := stands.record record isRecord
      have noPending := stands.noPending (by simp) (by simp)
      have noneGoing := stands.noneGoing (by simp)
      cases accepted with
      | true =>
        rw [if_pos rfl] at isStep
        have isSame : (tracked.step (.submitStart experiment
            true)).service.records[experiment]? = some record := by
          simpa [isStep] using isRecord
        refine StepsOn.of_record (stands_waiting tracked.service.runs ?_ noneGoing ?_ ?_
          isSame waits) isRecord isSame (mayMove_refl _ _) fun gone => gone.starting isStarting
        · simp [isStep]
        · simp [isStep]
        · simpa [isStep] using noPending
      | false =>
        rw [if_neg (by simp)] at isStep
        have isDeleted : (tracked.step (.submitStart experiment
            false)).service.records[experiment]? = some record.delete := by
          simp only [step, isStep]
          exact getElem?_change_self delete isRecord
        refine StepsOn.of_record (stands_nobody ?_ ?_ ?_ ?_) isRecord isDeleted
          (mayMove_refl _ _) fun gone => gone.starting isStarting
        · simp [isStep]
        · simpa [isStep] using noneGoing
        · intro pending isPending isOf
          simp only [step, isStep, ExperimentService.change] at isPending
          exact absurd isOf (noPending pending isPending)
        · intro held isHeld isKept
          cases isDeleted.symm.trans isHeld
          simp [delete, Kept] at isKept
    · apply StepsOn.of_leaves stands
      cases accepted with
      | true =>
        rw [if_pos rfl] at isStep
        refine ⟨?_, ?_, ?_, ?_, rfl, ?_⟩
        · simp [isStep, isOurs]
        · intro index background isOf
          simp only [step, isStep]
          apply getElem?_append_other
          rwa [isOf]
        · simp [isStep]
        · simp [isStep]
        · simp [isStep]
      | false =>
        rw [if_neg (by simp)] at isStep
        refine ⟨?_, ?_, ?_, ?_, rfl, ?_⟩
        · simp [isStep, isOurs]
        · simp [isStep]
        · simp [isStep]
        · simp only [step, isStep]
          rw [getElem?_change _ isOurs]
        · simp [isStep]
  · have isStep : tracked.service.step (.submitStart started accepted) = tracked.service := by
      simp only [ExperimentService.step, if_neg isStarting]
    exact StepsOn.of_same stands isStep rfl

/-! ## Resuming -/

section

variable (stands : tracked.Stands experiment charge)

include stands

theorem resumeCheckUser_stepsOn (userId : String) (resumed : Nat) (valid : Bool) :
    tracked.StepsOn (.resumeCheckUser userId resumed valid) experiment := by
  have cases : tracked.service.step (.resumeCheckUser userId resumed valid) = tracked.service ∨
      tracked.service.resuming = none ∧ (∃ record, tracked.service.records[resumed]? = some record ∧
          record.Kept ∧ record.status = .cancelled ∧ record.settling = false) ∧
        tracked.service.step (.resumeCheckUser userId resumed valid) = { tracked.service with
            resuming := some ⟨userId, resumed, .userChecked⟩ } := by
    simp only [ExperimentService.step]
    cases isFound : tracked.service.getRecord userId resumed with
    | none => exact Or.inl rfl
    | some record =>
      obtain ⟨isFree, isRecord, isKept, _⟩ := getRecord_some isFound
      simp only
      split
      · next isResumable =>
          split
          · exact Or.inr ⟨isFree, ⟨record, isRecord, isKept, isResumable.1,
              by simpa using isResumable.2.1⟩, rfl⟩
          · exact Or.inl rfl
      · exact Or.inl rfl
  obtain same | ⟨isFree, ⟨record, isRecord, isKept, isCancelled, isSettled⟩, isStep⟩ := cases
  · exact StepsOn.of_same stands same rfl
  · by_cases isOurs : experiment = resumed
    · subst isOurs
      have isNobody : charge = .nobody := by
        have fits := stands.record record isRecord
        cases charge with
        | nobody => rfl
        | submission | waiting _ => simp [Fits, Waits, isCancelled, isSettled] at fits
        | working _ => simp [Fits, isCancelled, isSettled] at fits
        | resume _ => simp [Fits, isCancelled] at fits
      subst isNobody
      have isSame : (tracked.step (.resumeCheckUser userId experiment
          valid)).service.records[experiment]? = some record := by
        simpa [isStep] using isRecord
      refine StepsOn.of_record (stands_nobody ?_ ?_ ?_ ?_) isRecord isSame
        (mayMove_refl _ _) fun gone => gone.lost record isRecord isKept
      · simpa [isStep] using stands.starting
      · simpa [isStep] using stands.noneGoing (by simp)
      · intro pending isPending isOf
        simp only [step, isStep] at isPending
        cases isPending
        exact ⟨by simp, record, isSame, isCancelled, isSettled⟩
      · intro held isHeld
        simp only [step, isStep] at isHeld
        exact stands.record held isHeld
    · apply StepsOn.of_leaves stands
      refine ⟨?_, ?_, ?_, ?_, rfl, ?_⟩
      · simp [isStep]
      · simp [isStep]
      · exact resuming_others (by simp [isFree]) (by simp [isStep, Ne.symm isOurs])
      · simp [isStep]
      · simp [isStep]

theorem resumeCheckTotal_stepsOn (reserved : Bool) :
    tracked.StepsOn (.resumeCheckTotal reserved) experiment := by
  have cases : tracked.service.step (.resumeCheckTotal reserved) = tracked.service ∨
      ∃ userId resumed, tracked.service.resuming = some ⟨userId, resumed, .userChecked⟩ ∧
        (tracked.service.step (.resumeCheckTotal reserved) = { tracked.service with
              resuming := some ⟨userId, resumed, .totalChecked⟩ } ∨
          tracked.service.step (.resumeCheckTotal reserved) =
            { tracked.service with resuming := none }) := by
    simp only [ExperimentService.step]
    split
    · next userId resumed isResuming =>
        refine Or.inr ⟨userId, resumed, isResuming, ?_⟩
        split
        · exact Or.inl rfl
        · exact Or.inr rfl
    · exact Or.inl rfl
  obtain same | ⟨userId, resumed, isResuming, isStep⟩ := cases
  · exact StepsOn.of_same stands same rfl
  · have lists : (tracked.step (.resumeCheckTotal reserved)).service.starting =
          tracked.service.starting ∧
        (tracked.step (.resumeCheckTotal reserved)).service.runs = tracked.service.runs ∧
        (tracked.step (.resumeCheckTotal reserved)).service.records = tracked.service.records := by
      obtain passed | refused := isStep
      · simp [passed]
      · simp [refused]
    obtain ⟨starting, runs, records⟩ := lists
    have pendings : ∀ pending : PendingResume,
        (tracked.step (.resumeCheckTotal reserved)).service.resuming = some pending →
          pending.experiment = resumed ∧ pending.phase = .totalChecked := by
      intro pending isPending
      obtain passed | refused := isStep
      · simp only [step, passed] at isPending
        cases isPending
        exact ⟨rfl, rfl⟩
      · simp [refused] at isPending
    by_cases isOurs : experiment = resumed
    · subst isOurs
      obtain ⟨rfl, record, isRecord, isAtRest⟩ := stands.resuming _ isResuming rfl
      have isSame := (congrArg (·[experiment]?) records).trans isRecord
      refine StepsOn.of_record (stands_nobody ?_ ?_ ?_ ?_) isRecord isSame
        (mayMove_refl _ _) fun gone => gone.resuming _ isResuming rfl
      · rw [starting, stands.starting]
        simp
      · rw [runs]
        exact stands.noneGoing (by simp)
      · intro pending isPending isOf
        rw [(pendings pending isPending).2]
        exact ⟨by simp, record, isSame, isAtRest⟩
      · rw [records]
        exact stands.record
    · apply StepsOn.of_leaves stands
      refine ⟨by rw [starting], fun _ _ _ => by rw [runs], ?_, by rw [records],
        rfl, by rw [records]⟩
      exact resuming_others (by simp [isResuming, Ne.symm isOurs]) fun pending isPending isOf =>
        isOurs (isOf.symm.trans (pendings pending isPending).1)

theorem resumeMark_stepsOn : tracked.StepsOn .resumeMark experiment := by
  have cases : tracked.service.step .resumeMark = tracked.service ∨
      ∃ userId resumed previous, tracked.service.resuming = some ⟨userId, resumed, .totalChecked⟩ ∧
        tracked.service.records[resumed]? = some previous ∧
        tracked.service.step .resumeMark = { tracked.service.change resumed .mark with
            resuming := some ⟨userId, resumed, .marked previous⟩ } := by
    simp only [ExperimentService.step]
    split
    · next userId resumed isResuming =>
        split
        · next previous isPrevious =>
            exact Or.inr ⟨userId, resumed, previous, isResuming, isPrevious, rfl⟩
        · exact Or.inl rfl
    · exact Or.inl rfl
  obtain same | ⟨userId, resumed, previous, isResuming, isPrevious, isStep⟩ := cases
  · exact StepsOn.of_same stands same rfl
  · by_cases isOurs : experiment = resumed
    · subst isOurs
      obtain ⟨rfl, record, isRecord, isCancelled, isSettled⟩ := stands.resuming _ isResuming rfl
      cases isPrevious.symm.trans isRecord
      have isMarked : (tracked.step .resumeMark).service.records[experiment]? =
          some previous.mark := by
        simp only [step, isStep]
        exact getElem?_change_self mark isPrevious
      refine StepsOn.of_record (show (tracked.step .resumeMark).Stands experiment (.resume previous)
        from ⟨?_, ?_, ?_, ?_, ?_, ?_, ?_⟩) isPrevious isMarked (by rw [isCancelled]; rfl)
        fun gone => gone.resuming _ isResuming rfl
      · simpa [isStep] using stands.starting
      · intro index background isRun isOf
        simp only [step, isStep, ExperimentService.change] at isRun
        have standing := stands.going index background isRun isOf
        exact ⟨fun isPhase => Charge.noConfusion (standing.1 isPhase),
          fun isPhase => Charge.noConfusion (standing.2 isPhase)⟩
      · exact nofun
      · intro pending isPending isOf
        simp only [step, isStep] at isPending
        cases isPending
        rfl
      · intro held isHeld
        obtain rfl := Charge.resume.inj isHeld
        exact ⟨userId, by simp [isStep]⟩
      · intro held isHeld
        cases isMarked.symm.trans isHeld
        exact ⟨⟨rfl, rfl, rfl⟩, isCancelled, isSettled⟩
      · intro tooShort
        rw [List.getElem?_eq_none tooShort] at isMarked
        cases isMarked
    · apply StepsOn.of_leaves stands
      refine ⟨?_, ?_, ?_, ?_, rfl, ?_⟩
      · simp [isStep]
      · simp [isStep]
      · exact resuming_others (by simp [isResuming, Ne.symm isOurs])
          (by simp [isStep, Ne.symm isOurs])
      · simp only [step, isStep]
        exact getElem?_change _ isOurs
      · simp [isStep]

theorem resumeStart_stepsOn (accepted : Bool) :
    tracked.StepsOn (.resumeStart accepted) experiment := by
  have cases : tracked.service.step (.resumeStart accepted) = tracked.service ∨
      ∃ userId resumed previous, tracked.service.resuming =
          some ⟨userId, resumed, .marked previous⟩ ∧
        tracked.service.step (.resumeStart accepted) = if accepted then
            { ({ tracked.service with resuming := none } :
                ExperimentService).change resumed .put with
              runs := tracked.service.runs ++ [{ experiment := resumed }] }
          else ({ tracked.service with resuming := none } :
              ExperimentService).change resumed fun _ => previous := by
    simp only [ExperimentService.step]
    split
    · next userId resumed previous isResuming =>
        exact Or.inr ⟨userId, resumed, previous, isResuming, rfl⟩
    · exact Or.inl rfl
  obtain same | ⟨userId, resumed, previous, isResuming, isStep⟩ := cases
  · exact StepsOn.of_same stands same rfl
  · by_cases isOurs : experiment = resumed
    · subst isOurs
      have isCharge := stands.resuming _ isResuming rfl
      subst isCharge
      obtain ⟨record, isRecord⟩ := stands.not_nobody (by simp)
      obtain ⟨isQueued, isCancelled, isSettled⟩ := stands.record record isRecord
      have noneGoing := stands.noneGoing (by simp)
      have notStarting : experiment ∉ tracked.service.starting :=
        fun isStarting => nomatch stands.starting.mp isStarting
      cases accepted with
      | true =>
        rw [if_pos rfl] at isStep
        have isPut : (tracked.step (.resumeStart
            true)).service.records[experiment]? = some record.put := by
          simp only [step, isStep]
          exact getElem?_change_self put isRecord
        refine StepsOn.of_record (stands_waiting tracked.service.runs ?_ noneGoing ?_ ?_
          isPut (Or.inl isQueued)) isRecord isPut (mayMove_refl _ _)
          fun gone => gone.resuming _ isResuming rfl
        · simp [isStep]
        · simpa [isStep] using notStarting
        · simp [isStep]
      | false =>
        rw [if_neg (by simp)] at isStep
        have isRestored : (tracked.step (.resumeStart
            false)).service.records[experiment]? = some previous := by
          simp only [step, isStep]
          exact getElem?_change_self (fun _ => previous) isRecord
        refine StepsOn.of_record (stands_nobody ?_ ?_ ?_ ?_) isRecord isRestored
          (by rw [isQueued.1, isCancelled]; trivial) fun gone => gone.resuming _ isResuming rfl
        · simpa [isStep] using notStarting
        · simpa [isStep] using noneGoing
        · simp [isStep]
        · intro held isHeld _
          cases isRestored.symm.trans isHeld
          exact ⟨by simp [Busy, isCancelled], isSettled⟩
    · apply StepsOn.of_leaves stands
      cases accepted with
      | true =>
        rw [if_pos rfl] at isStep
        refine ⟨?_, ?_, ?_, ?_, rfl, ?_⟩
        · simp [isStep]
        · intro index background isOf
          simp only [step, isStep]
          apply getElem?_append_other
          rwa [isOf]
        · exact resuming_others (by simp [isResuming, Ne.symm isOurs]) (by simp [isStep])
        · simp only [step, isStep]
          exact getElem?_change _ isOurs
        · simp [isStep]
      | false =>
        rw [if_neg (by simp)] at isStep
        refine ⟨?_, ?_, ?_, ?_, rfl, ?_⟩
        · simp [isStep]
        · simp [isStep]
        · exact resuming_others (by simp [isResuming, Ne.symm isOurs]) (by simp [isStep])
        · simp only [step, isStep]
          exact getElem?_change _ isOurs
        · simp [isStep]

end

end TrackedService
end UrbanFlow
