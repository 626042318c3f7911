import UrbanFlow.Experiments.LifecycleMoves

/-!
# Every interleaving around one experiment

The steps of a cancel, of a delete and of the background runs, and whole runs of
the service: the lifecycle is kept as long as no cleanup comes late.
-/

namespace UrbanFlow
namespace TrackedService

open ExperimentService TrackedService ExperimentService ExperimentRecord

variable {tracked : TrackedService} {step : ServiceStep} {experiment : Nat} {charge : Charge}

variable {update : ExperimentRecord → ExperimentRecord}

attribute [local simp] setPhase

/-! ## Cancelling and deleting -/

theorem leaves_of_change {target : Nat}
    (isStep : (tracked.step step).service = tracked.service.change target update)
    (progress : (tracked.step step).progress experiment = tracked.progress experiment)
    (different : experiment ≠ target) : tracked.Leaves step experiment where
  starting := by simp [isStep, change]
  runs := by simp [isStep, change]
  resuming := by simp [isStep, change]
  records := by rw [isStep, getElem?_change _ different]
  progress := progress
  length := by simp [isStep, change]

theorem Stands.of_change (stands : tracked.Stands experiment charge)
    (isStep : (tracked.step step).service = tracked.service.change experiment update)
    (isFree : tracked.service.resuming = none) {record : ExperimentRecord}
    (isRecord : tracked.service.records[experiment]? = some record)
    (fits : (update record).Fits ((tracked.step step).progress experiment) (tracked.step
      step).cancelled charge) : (tracked.step step).Stands experiment charge := by
  refine ⟨?_, ?_, ?_, ?_, ?_, ?_, ?_⟩
  · simpa [isStep, change] using stands.starting
  · intro index background isRun isOf
    simp only [isStep, change] at isRun
    exact stands.going index background isRun isOf
  · intro index isWorking
    simpa [isStep, change] using stands.working index isWorking
  · intro pending isPending
    simp [isStep, change, isFree] at isPending
  · intro previous isResume
    obtain ⟨userId, isResuming⟩ := stands.resumed previous isResume
    rw [isFree] at isResuming
    cases isResuming
  · intro held isHeld
    rw [isStep, getElem?_change_self update isRecord] at isHeld
    cases isHeld
    exact fits
  · intro tooShort
    apply stands.absent
    simpa [isStep, change] using tooShort

section

variable (tracked : TrackedService) (userId : String) (target : Nat)

theorem cancel_cases : (tracked.service.step (.cancel userId target) = tracked.service ∧
        cancelAccepted tracked.service (.cancel userId target) = none) ∨
      ∃ record, tracked.service.resuming = none ∧
        tracked.service.records[target]? = some record ∧ record.Kept ∧ record.Busy ∧
        tracked.service.step (.cancel userId target) = tracked.service.change target .cancel ∧
        cancelAccepted tracked.service (.cancel userId target) = some target := by
  simp only [ExperimentService.step, cancelAccepted]
  cases isFound : tracked.service.getRecord userId target with
  | none => exact Or.inl ⟨rfl, rfl⟩
  | some record =>
    obtain ⟨isFree, isRecord, isKept, _⟩ := getRecord_some isFound
    by_cases isBusy : record.Busy
    · refine Or.inr ⟨record, isFree, isRecord, isKept, isBusy, ?_, ?_⟩
      · simp [isBusy]
      · simp [isBusy]
    · refine Or.inl ⟨?_, ?_⟩
      · simp [isBusy]
      · simp [isBusy]

theorem delete_cases : (tracked.service.step (.delete userId target) = tracked.service ∧
        deleteAccepted tracked.service (.delete userId target) = none) ∨
      ∃ record, tracked.service.resuming = none ∧
        tracked.service.records[target]? = some record ∧ record.Kept ∧
        ¬ record.Busy ∧ record.settling = false ∧
        tracked.service.step (.delete userId target) = tracked.service.change target .delete ∧
        deleteAccepted tracked.service (.delete userId target) = some target := by
  simp only [ExperimentService.step, deleteAccepted]
  cases isFound : tracked.service.getRecord userId target with
  | none => exact Or.inl ⟨rfl, rfl⟩
  | some record =>
    obtain ⟨isFree, isRecord, isKept, _⟩ := getRecord_some isFound
    by_cases isLive : record.Busy ∨ record.settling = true
    · refine Or.inl ⟨?_, ?_⟩
      · simp [isLive]
      · simp [isLive]
    · refine Or.inr ⟨record, isFree, isRecord, isKept, fun isBusy =>
        isLive (Or.inl isBusy), ?_, ?_, ?_⟩
      · simpa using fun isSettling => isLive (Or.inr isSettling)
      · simp [isLive]
      · simp [isLive]

end

section

variable (stands : tracked.Stands experiment charge)

include stands

theorem Stands.eq_nobody {record : ExperimentRecord}
    (isRecord : tracked.service.records[experiment]? = some record) (notBusy : ¬ record.Busy)
    (notSettling : record.settling = false) : charge = .nobody := by
  have fits := stands.record record isRecord
  unfold Busy at notBusy
  cases charge with
  | nobody => rfl
  | submission | waiting _ => simp_all [Fits, Waits]
  | working _ | resume _ => simp_all [Fits]

theorem Stands.cancelled_of_cancel {userId : String}
    (accepted : cancelAccepted tracked.service (.cancel userId experiment) = some experiment)
    {record : ExperimentRecord} (isRecord : tracked.service.records[experiment]? = some record)
    (isBusy : record.Busy) {run : Nat} (isWorking : charge = .working run) :
    (tracked.step (.cancel userId experiment)).cancelled run = true := by
  subst isWorking
  have isFiled : tracked.progress experiment = some run := by
    obtain ⟨_, _, _, isFiled⟩ | ⟨isCancelled, _⟩ := stands.record record isRecord
    · exact isFiled
    · simp [Busy, isCancelled] at isBusy
  change tracked.cancelledAfter (.cancel userId experiment) run = true
  simp [cancelledAfter, accepted, isFiled]

section

variable (userId : String) (target : Nat)

theorem cancel_stepsOn : tracked.StepsOn (.cancel userId target) experiment := by
  obtain ⟨same, _⟩ | ⟨record, isFree, isRecord, isKept, isBusy, isStep,
    accepted⟩ := cancel_cases tracked userId target
  · exact StepsOn.of_same stands same rfl
  · by_cases isOurs : experiment = target
    · subst isOurs
      have isCancelled := getElem?_change_self cancel isRecord
      refine StepsOn.of_record (stands.of_change isStep isFree isRecord ?_) isRecord
        ((congrArg (·.records[experiment]?) isStep).trans isCancelled) ?_
        fun gone => gone.lost record isRecord isKept
      · have fits := stands.record record isRecord
        cases charge with
        | nobody => exact absurd isBusy (fits isKept).1
        | submission | waiting _ => exact Or.inr ⟨rfl, rfl, rfl⟩
        | working =>
          exact Or.inr ⟨rfl, rfl, rfl, stands.cancelled_of_cancel accepted isRecord isBusy rfl⟩
        | resume previous =>
          obtain ⟨_, isResuming⟩ := stands.resumed previous rfl
          rw [isFree] at isResuming
          cases isResuming
      · obtain isQueued | isRunning := isBusy
        · rw [isQueued]
          trivial
        · rw [isRunning]
          trivial
    · exact StepsOn.of_leaves stands (leaves_of_change isStep rfl isOurs)

theorem delete_stepsOn : tracked.StepsOn (.delete userId target) experiment := by
  obtain ⟨same, _⟩ | ⟨record, isFree, isRecord, wasKept, notBusy, notSettling,
    isStep, _⟩ := delete_cases tracked userId target
  · exact StepsOn.of_same stands same rfl
  · by_cases isOurs : experiment = target
    · subst isOurs
      have isDeleted := getElem?_change_self delete isRecord
      obtain rfl := stands.eq_nobody isRecord notBusy notSettling
      refine StepsOn.of_record (stands.of_change isStep isFree isRecord fun isKept => ?_) isRecord
        ((congrArg (·.records[experiment]?) isStep).trans isDeleted) ?_
        fun gone => gone.lost record isRecord wasKept
      · simp [delete, Kept] at isKept
      · exact mayMove_refl _ _
    · exact StepsOn.of_leaves stands (leaves_of_change isStep rfl isOurs)

end

end

/-! ## Runs -/

section Runs

variable {run : Nat} {phase next : RunPhase} {background : BackgroundRun}

variable {update : ExperimentRecord → ExperimentRecord}

theorem leaves_of_run (isRun : tracked.service.runs[run]? = some background)
    (isStep : (tracked.step step).service = (tracked.service.change background.experiment
      update).setPhase run next)
    (progress : (tracked.step step).progress experiment = tracked.progress experiment)
    (different : experiment ≠ background.experiment) :
    tracked.Leaves step experiment where
  starting := by simp [isStep, change]
  runs := by
    intro index other isOf
    rw [isStep]
    apply getElem?_setPhase_other isRun
    rwa [isOf]
  resuming := by simp [isStep, change]
  records := by
    rw [isStep]
    exact getElem?_change _ different
  progress := progress
  length := by simp [isStep, change]

theorem Stands.of_run (stands : tracked.Stands background.experiment charge) (after : Charge)
    (isFree : tracked.service.resuming = none)
    (isRun : tracked.service.runs[run]? = some background)
    (isStep : (tracked.step step).service = (tracked.service.change background.experiment
      update).setPhase run next) (submission : after = .submission ↔ charge = .submission)
    (mine : (next = .submitted → after = .waiting run) ∧ (next = .working → after = .working run))
    (others : ∀ index, index ≠ run → (charge = .waiting index → after = .waiting index) ∧ (charge =
      .working index → after = .working index))
    (works : ∀ index, after = .working index → index = run ∧ next = .working ∨ index ≠ run ∧ charge
      = .working index)
    (notResume : ∀ previous, after = .resume previous → charge = .resume previous)
    (notAbsent : charge = .nobody → after = .nobody)
    (fits : ∀ record, tracked.service.records[background.experiment]? = some record → (update
      record).Fits ((tracked.step step).progress background.experiment) (tracked.step
      step).cancelled after) : (tracked.step step).Stands background.experiment after := by
  refine ⟨?_, ?_, ?_, ?_, ?_, ?_, ?_⟩
  · rw [submission, ← stands.starting]
    simp [isStep, change]
  · intro index other isOther isOf
    rw [isStep, getElem?_setPhase] at isOther
    split at isOther
    · next same =>
        subst same
        change (tracked.service.runs[run]?.map _) = _ at isOther
        rw [isRun] at isOther
        cases isOther
        exact mine
    · next different =>
        have standing := stands.going index other isOther isOf
        have kept := others index (Ne.symm different)
        exact ⟨fun isPhase => kept.1 (standing.1 isPhase),
          fun isPhase => kept.2 (standing.2 isPhase)⟩
  · intro index isWorking
    rw [isStep, getElem?_setPhase]
    obtain ⟨rfl, rfl⟩ | ⟨different, wasWorking⟩ := works index isWorking
    · rw [if_pos rfl]
      change tracked.service.runs[index]?.map _ = _
      rw [isRun]
      rfl
    · rw [if_neg (Ne.symm different)]
      exact stands.working index wasWorking
  · intro pending isPending
    simp [isStep, change, isFree] at isPending
  · intro previous isResume
    obtain ⟨_, isResuming⟩ := stands.resumed previous (notResume previous isResume)
    rw [isFree] at isResuming
    cases isResuming
  · intro held isHeld
    rw [isStep] at isHeld
    cases isRecord : tracked.service.records[background.experiment]? with
    | none =>
      have isNone : (tracked.service.change background.experiment
          update).records[background.experiment]? = none := by
        simp [change, isRecord]
      cases isNone.symm.trans isHeld
    | some record =>
      have isUpdated := getElem?_change_self update isRecord
      cases isUpdated.symm.trans isHeld
      exact fits record isRecord
  · intro tooShort
    apply notAbsent
    apply stands.absent
    simpa [isStep, change] using tooShort

/-- The run in charge moves on, and the record of its experiment with it. -/
theorem StepsOn.of_run (stands : tracked.Stands background.experiment charge)
    (isCharge : charge = .waiting run ∨ charge = .working run)
    (isPhase : background.phase = .submitted ∨ background.phase = .working)
    (isFree : tracked.service.resuming = none)
    (isRun : tracked.service.runs[run]? = some background) {record : ExperimentRecord}
    (isRecord : tracked.service.records[background.experiment]? = some record)
    (isStep : (tracked.step step).service =
      (tracked.service.change background.experiment update).setPhase run next) {after : Charge}
    (isAfter : after = .nobody ∧ next ≠ .submitted ∧ next ≠ .working ∨
      after = .working run ∧ next = .working)
    (fits : (update record).Fits ((tracked.step step).progress background.experiment)
      (tracked.step step).cancelled after)
    (moves : MayMove step record.status (update record).status) :
    tracked.StepsOn step background.experiment := by
  have others : ∀ index, index ≠ run → charge ≠ .waiting index ∧ charge ≠ .working index := by
    rintro index different
    rcases isCharge with rfl | rfl <;> simp [Ne.symm different]
  refine StepsOn.of_record (stands.of_run after isFree isRun isStep ?_ ?_ (fun index different =>
      ⟨fun same => absurd same (others index different).1,
        fun same => absurd same (others index different).2⟩) ?_ ?_ ?_ fun held isHeld => ?_)
    isRecord ((congrArg (·.records[background.experiment]?) isStep).trans
      (getElem?_change_self update isRecord)) moves
    fun gone => gone.going run background isRun rfl isPhase
  case refine_6 =>
    cases isRecord.symm.trans isHeld
    exact fits
  all_goals
    rcases isCharge with rfl | rfl <;>
      rcases isAfter with ⟨rfl, notSubmitted, notWorking⟩ | ⟨rfl, rfl⟩ <;> simp_all

section

variable (stands : tracked.Stands experiment charge) (run : Nat)

include stands

theorem runStart_stepsOn : tracked.StepsOn (.runStart run) experiment := by
  cases isRunAt : tracked.service.runAt run .submitted with
  | none =>
    have same : tracked.service.step (.runStart run) = tracked.service := by
      simp [ExperimentService.step, isRunAt]
    exact StepsOn.of_same stands same (by simp [progressAfter, isRunAt])
  | some background =>
    obtain ⟨isFree, isRun, isPhase⟩ := runAt_eq_some isRunAt
    by_cases isOurs : background.experiment = experiment
    · subst isOurs
      obtain rfl := (stands.going run background isRun rfl).1 isPhase
      obtain ⟨record, isRecord⟩ := stands.not_nobody (by simp)
      have waits := stands.record record isRecord
      have isStep : (tracked.step (.runStart run)).service =
          (tracked.service.change background.experiment .start).setPhase run
            (if record.cancelRequested then .done else .working) := by
        simp only [step, ExperimentService.step, isRunAt, isRecord]
      have isProgress : (tracked.step (.runStart run)).progress background.experiment =
            if record.cancelRequested then none else some run := by
        simp [step, progressAfter, isRunAt, isRecord]
      by_cases isCancelled : record.cancelRequested = true
      · -- cancelled while it was queued: the run settles and returns
        rw [if_pos isCancelled] at isStep isProgress
        have settles : record.start = record.settleCancelled := by
          rw [start, if_pos isCancelled]
        refine StepsOn.of_run stands (Or.inl rfl) (Or.inl isPhase) isFree isRun isRecord isStep
          (Or.inl ⟨rfl, by simp, by simp⟩) ?_ ?_
        · intro _
          rw [settles]
          refine ⟨?_, rfl⟩
          simp [Busy, settleCancelled, put]
        · obtain ⟨_, notCancelled, _⟩ | ⟨wasCancelled, _⟩ := waits
          · rw [isCancelled] at notCancelled
            cases notCancelled
          · rw [settles, wasCancelled]
            trivial
      · rw [if_neg isCancelled] at isStep isProgress
        have begins : record.start = { record with status := .running }.put :=
          by rw [start, if_neg isCancelled]
        obtain ⟨wasQueued, notCancelled, notSettling⟩ | ⟨_, wasRequested, _⟩ := waits
        · refine StepsOn.of_run stands (Or.inl rfl) (Or.inl isPhase) isFree isRun isRecord isStep
            (Or.inr ⟨rfl, rfl⟩) ?_ ?_
          · rw [begins, isProgress]
            exact Or.inl ⟨rfl, notCancelled, notSettling, rfl⟩
          · rw [begins, wasQueued]
            trivial
        · exact absurd wasRequested isCancelled
    · apply StepsOn.of_leaves stands
      have isStep : ∃ next, (tracked.step (.runStart run)).service =
          (tracked.service.change background.experiment .start).setPhase run next := by
        simp only [step, ExperimentService.step, isRunAt]
        exact ⟨_, rfl⟩
      obtain ⟨next, isStep⟩ := isStep
      refine leaves_of_run isRun isStep ?_ (Ne.symm isOurs)
      simp only [step, progressAfter, isRunAt]
      cases tracked.service.records[background.experiment]? with
      | none => rfl
      | some => exact Function.update_of_ne (Ne.symm isOurs) _ _

theorem runFinish_stepsOn (outcome : RunOutcome) (meets : tracked.Meets (.runFinish run outcome)) :
    tracked.StepsOn (.runFinish run outcome) experiment := by
  cases isRunAt : tracked.service.runAt run .working with
  | none =>
    have same : tracked.service.step (.runFinish run outcome) = tracked.service := by
      simp [ExperimentService.step, isRunAt]
    exact StepsOn.of_same stands same (by simp [progressAfter, isRunAt])
  | some background =>
    obtain ⟨isFree, isRun, isPhase⟩ := runAt_eq_some isRunAt
    have isStep : (tracked.step (.runFinish run outcome)).service =
        (tracked.service.change background.experiment (.finish outcome)).setPhase run .leaving := by
      simp only [step, ExperimentService.step, isRunAt]
    by_cases isOurs : background.experiment = experiment
    · subst isOurs
      obtain rfl := (stands.going run background isRun rfl).2 isPhase
      obtain ⟨record, isRecord⟩ := stands.not_nobody (by simp)
      have works := stands.record record isRecord
      have ends : ¬ (record.finish outcome).Busy ∧ (record.finish outcome).settling = false ∧
          MayMove (.runFinish run outcome) record.status (record.finish outcome).status := by
        obtain ⟨isRunning, notCancelled, notSettling, _⟩ | ⟨wasCancelled, isRequested, _⟩ := works
        · cases outcome <;> simp [finish, Busy, settleCancelled, put, notCancelled, notSettling, isRunning, MayMove]
        · cases outcome with
          | raised =>
            have notRequested := meets background isRunAt record isRecord
            rw [isRequested] at notRequested
            cases notRequested
          | _ =>
            simp [finish, Busy, settleCancelled, put, isRequested, wasCancelled, MayMove]
      obtain ⟨notBusy, notSettling, moves⟩ := ends
      exact StepsOn.of_run stands (Or.inr rfl) (Or.inr isPhase) isFree isRun isRecord isStep
        (Or.inl ⟨rfl, by simp, by simp⟩) (fun _ => ⟨notBusy, notSettling⟩) moves
    · apply StepsOn.of_leaves stands
      refine leaves_of_run isRun isStep ?_ (Ne.symm isOurs)
      simp only [step, progressAfter, isRunAt]
      cases tracked.service.records[background.experiment]? with
      | none => rfl
      | some =>
        simp only
        split
        · exact Function.update_of_ne (Ne.symm isOurs) _ _
        · rfl

theorem runLeave_stepsOn (meets : tracked.Meets (.runLeave run)) :
    tracked.StepsOn (.runLeave run) experiment := by
  cases isRunAt : tracked.service.runAt run .leaving with
  | none =>
    have same : tracked.service.step (.runLeave run) = tracked.service := by
      simp [ExperimentService.step, isRunAt]
    exact StepsOn.of_same stands same (by simp [progressAfter, isRunAt])
  | some background =>
    obtain ⟨isFree, isRun, isPhase⟩ := runAt_eq_some isRunAt
    obtain ⟨isClean, noneWorking⟩ := meets background isRunAt
    have isStep : (tracked.step (.runLeave run)).service =
        (tracked.service.change background.experiment .leave).setPhase run .done := by
      simp only [step, ExperimentService.step, isRunAt]
    by_cases isOurs : background.experiment = experiment
    · subst isOurs
      have notWorking : ∀ index, charge ≠ .working index := by
        intro index isWorking
        have works := stands.working index isWorking
        exact noneWorking _ (List.mem_of_getElem? works) rfl rfl
      refine ⟨⟨charge, stands.of_run charge isFree isRun isStep Iff.rfl (by simp) (fun _ _ => ⟨id, id⟩)
        (fun index isWorking => absurd isWorking (notWorking index))
        (fun _ => id) id ?_⟩, ?_, ?_⟩
      · intro record isRecord
        obtain ⟨isKept, notSettling⟩ := isClean record isRecord
        have fits := stands.record record isRecord
        have waits : record.Waits → record.leave.Waits := by
          rintro (⟨isQueued, notCancelled, _⟩ | ⟨_, _, isSettling⟩)
          · exact Or.inl ⟨isQueued, notCancelled, rfl⟩
          · exact absurd isSettling notSettling
        cases charge with
        | nobody => exact fun _ => ⟨(fits isKept).1, rfl⟩
        | submission | waiting _ => exact waits fits
        | working index => exact absurd rfl (notWorking index)
        | resume => exact ⟨⟨fits.1.1, fits.1.2.1, rfl⟩, fits.2⟩
      · intro old new isOld isNew
        have isLeft := getElem?_change_self leave isOld
        rw [isStep] at isNew
        cases isLeft.symm.trans isNew
        exact mayMove_refl _ _
      · intro gone
        have isRecord := List.getElem?_eq_getElem gone.inside
        exact absurd (isClean _ isRecord).1 (gone.lost _ isRecord)
    · apply StepsOn.of_leaves stands
      refine leaves_of_run isRun isStep ?_ (Ne.symm isOurs)
      simp only [step, progressAfter, isRunAt]
      rw [Function.update_of_ne (Ne.symm isOurs)]

end

end Runs

/-- A step, if it comes at no bad moment, keeps every experiment's life in
order. -/
theorem step_stepsOn (stands : tracked.Stands experiment charge) (step : ServiceStep)
    (meets : tracked.Meets step) : tracked.StepsOn step experiment := by
  cases step with
  | submitCheckUser userId => exact submitCheckUser_stepsOn stands userId
  | submitCheckTotal => exact submitCheckTotal_stepsOn stands
  | submitPut reserved => exact submitPut_stepsOn stands reserved
  | submitStart started accepted => exact submitStart_stepsOn stands started accepted
  | resumeCheckUser userId resumed valid =>
    exact resumeCheckUser_stepsOn stands userId resumed valid
  | resumeCheckTotal reserved => exact resumeCheckTotal_stepsOn stands reserved
  | resumeMark => exact resumeMark_stepsOn stands
  | resumeStart accepted => exact resumeStart_stepsOn stands accepted
  | cancel userId target => exact cancel_stepsOn stands userId target
  | delete userId target => exact delete_stepsOn stands userId target
  | runStart run => exact runStart_stepsOn stands run
  | runFinish run outcome => exact runFinish_stepsOn stands run outcome meets
  | runLeave run => exact runLeave_stepsOn stands run meets

end TrackedService

/-! ## Whole runs -/

namespace TrackedRun

open TrackedService

variable (run : TrackedRun)

/-- No step of the run comes at a bad moment. -/
def Clean : Prop := ∀ n, (run.trackedAt n).Meets (run.steps n)

variable {run}

theorem stands (clean : run.Clean) (experiment : Nat) (n : Nat) :
    ∃ charge, (run.trackedAt n).Stands experiment charge := by
  induction n with
  | zero =>
    refine ⟨.nobody, stands_nobody ?_ ?_ ?_ ?_⟩
    · simp [trackedAt]
    · simp [trackedAt, NoneGoing]
    · simp [trackedAt]
    · intro record isRecord _
      obtain ⟨notBusy, notSettling⟩ := run.idle record (List.mem_of_getElem? isRecord)
      exact ⟨notBusy, by simpa using notSettling⟩
  | succ n ih =>
    obtain ⟨charge, stands⟩ := ih
    exact (step_stepsOn stands _ (clean n)).stands

theorem charge_of_going {tracked : TrackedService} {experiment index : Nat} {charge : Charge}
    (stands : tracked.Stands experiment charge) {background : BackgroundRun}
    (isRun : tracked.service.runs[index]? = some background)
    (isOf : background.experiment = experiment) (isGoing : background.Going) :
    charge = .waiting index ∨ charge = .working index := by
  have standing := stands.going index background isRun isOf
  exact isGoing.imp standing.1 standing.2

theorem gone_of_delete {tracked : TrackedService} {experiment : Nat} {charge : Charge}
    (stands : tracked.Stands experiment charge) {step : ServiceStep}
    (accepted : deleteAccepted tracked.service step = some experiment) :
    (tracked.step step).Gone experiment := by
  cases step with
  | delete userId target =>
    obtain ⟨_, refused⟩ | ⟨record, isFree, isRecord, isKept, notBusy,
      notSettling, isStep, isAccepted⟩ :=
      delete_cases tracked userId target
    · rw [refused] at accepted
      cases accepted
    · cases isAccepted.symm.trans accepted
      have isDeleted := ExperimentService.getElem?_change_self ExperimentRecord.delete isRecord
      obtain rfl := stands.eq_nobody isRecord notBusy notSettling
      refine ⟨?_, ?_, ?_, ?_, ?_⟩
      · obtain ⟨inside, _⟩ := List.getElem?_eq_some_iff.mp isRecord
        simpa [step, isStep, ExperimentService.change] using inside
      · intro isStarting
        simp only [step, isStep, ExperimentService.change] at isStarting
        cases stands.starting.mp isStarting
      · intro index background isRun isOf
        simp only [step, isStep, ExperimentService.change] at isRun
        exact stands.noneGoing (by simp) index background isRun isOf
      · simp [step, isStep, ExperimentService.change, isFree]
      · intro held isHeld
        simp only [step, isStep, isDeleted, Option.some.injEq] at isHeld
        subst isHeld
        simp [ExperimentRecord.delete, ExperimentRecord.Kept]
  | _ => cases accepted

/-- A run without a step at a bad moment is lawful. -/
theorem lawful_of_clean (clean : run.Clean) : run.Lawful where
  moves := by
    intro n experiment old new isOld isNew
    obtain ⟨charge, stands⟩ := stands clean experiment n
    exact (step_stepsOn stands _ (clean n)).moves old new isOld isNew
  single := by
    intro n index other background another isRun isOther sameExperiment isGoing otherGoing _ _
    obtain ⟨charge, stands⟩ := stands clean another.experiment n
    have first := charge_of_going stands isRun sameExperiment isGoing
    have second := charge_of_going stands isOther rfl otherGoing
    obtain rfl | rfl := first
    · simpa using second
    · simpa using second
  reaches := by
    intro n experiment accepted index background isRun isOf isPhase
    obtain ⟨charge, stands⟩ := stands clean experiment n
    obtain rfl := (stands.going index background isRun isOf).2 isPhase
    change ((run.trackedAt n).step (run.steps n)).cancelled index = true
    cases isStep : run.steps n with
    | cancel userId target =>
      rw [isStep] at accepted
      obtain ⟨_, refused⟩ | ⟨record, _, isRecord, _, isBusy, _,
        isAccepted⟩ := cancel_cases (run.trackedAt n) userId target
      · rw [refused] at accepted
        cases accepted
      · cases isAccepted.symm.trans accepted
        exact stands.cancelled_of_cancel isAccepted isRecord isBusy rfl
    | _ =>
      rw [isStep] at accepted
      cases accepted
  gone := by
    intro n experiment accepted later isLater record isRecord
    obtain ⟨charge, isStanding⟩ := stands clean experiment n
    have first := gone_of_delete isStanding accepted
    have always : ∀ extra, (run.trackedAt (n + 1 + extra)).Gone experiment := by
      intro extra
      induction extra with
      | zero => exact first
      | succ extra ih =>
        obtain ⟨_, standing⟩ := stands clean experiment (n + 1 + extra)
        exact (step_stepsOn standing _ (clean _)).gone ih
    obtain ⟨extra, rfl⟩ := Nat.exists_eq_add_of_le isLater
    exact (always extra).lost record isRecord

/-! ## A cleanup that comes late, and one that comes in time -/

/-- A cancelled experiment is resumed, and its new run begun, before the old run
has cleaned up. The new run is then cancelled. -/
def cancelMissed : TrackedRun where
  stored := []
  idle := by simp
  steps
    | 0 => .submitCheckUser "ada"
    | 1 => .submitCheckTotal
    | 2 => .submitPut true
    | 3 => .submitStart 0 true
    | 4 => .runStart 0
    | 5 => .cancel "ada" 0
    | 6 => .runFinish 0 .cancelled
    | 7 => .resumeCheckUser "ada" 0 true
    | 8 => .resumeCheckTotal true
    | 9 => .resumeMark
    | 10 => .resumeStart true
    | 11 => .runStart 1
    | 12 => .runLeave 0
    | _ => .cancel "ada" 0

/-- A completed experiment is deleted before its run has cleaned up. -/
def deletedShown : TrackedRun where
  stored := []
  idle := by simp
  steps
    | 0 => .submitCheckUser "ada"
    | 1 => .submitCheckTotal
    | 2 => .submitPut true
    | 3 => .submitStart 0 true
    | 4 => .runStart 0
    | 5 => .runFinish 0 .completed
    | 6 => .delete "ada" 0
    | _ => .runLeave 0

/-- The run of a cancelled experiment raises. -/
def cancelledFailed : TrackedRun where
  stored := []
  idle := by simp
  steps
    | 0 => .submitCheckUser "ada"
    | 1 => .submitCheckTotal
    | 2 => .submitPut true
    | 3 => .submitStart 0 true
    | 4 => .runStart 0
    | 5 => .cancel "ada" 0
    | _ => .runFinish 0 .raised

/-- The second cancel does not reach the run at work, the deleted experiment is
stored again, and a cancelled experiment becomes a failed one. -/
theorem late_cleanup_unlawful : ¬ cancelMissed.Lawful ∧ ¬ deletedShown.Lawful ∧
      ¬ cancelledFailed.Lawful := by
  refine ⟨fun lawful => ?_, fun lawful => ?_, fun lawful => ?_⟩
  · have reached := lawful.reaches 13 0 (by decide) 1 ⟨0, .working⟩ (by decide) rfl rfl
    have notReached : (cancelMissed.trackedAt 14).cancelled 1 = false := by decide
    rw [notReached] at reached
    cases reached
  · exact lawful.gone 6 0 (by decide) 8 (by omega)
      { userId := "ada", status := .completed } (by decide)
      (Or.inl rfl)
  · have moved := lawful.moves 6 0
      { userId := "ada", status := .cancelled, settling := true,
        cancelRequested := true }
      { userId := "ada", status := .failed, settling := true }
      (by decide) (by decide)
    simp [MayMove] at moved

/-- A cancelled experiment is resumed after its run has cleaned up, and its new
run is cancelled. -/
def resumedAfterCleanup : TrackedRun where
  stored := []
  idle := by simp
  steps
    | 0 => .submitCheckUser "ada"
    | 1 => .submitCheckTotal
    | 2 => .submitPut true
    | 3 => .submitStart 0 true
    | 4 => .runStart 0
    | 5 => .cancel "ada" 0
    | 6 => .runFinish 0 .cancelled
    | 7 => .runLeave 0
    | 8 => .resumeCheckUser "ada" 0 true
    | 9 => .resumeCheckTotal true
    | 10 => .resumeMark
    | 11 => .resumeStart true
    | 12 => .runStart 1
    | _ => .cancel "ada" 0

theorem resumedAfterCleanup_clean : resumedAfterCleanup.Clean := by
  intro n
  match n with
  | 0 | 1 | 2 | 3 | 4 | 5 | 6 | 8 | 9 | 10 | 11 | 12 => trivial
  | 7 =>
    change ∀ background ∈ _, _ ∧ _
    decide
  | n + 13 => trivial

theorem resumedAfterCleanup_lawful : resumedAfterCleanup.Lawful :=
  lawful_of_clean resumedAfterCleanup_clean

end TrackedRun
end UrbanFlow
