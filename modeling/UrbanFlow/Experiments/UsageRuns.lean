import Mathlib.Tactic.FieldSimp
import Mathlib.Tactic.Linarith
import Mathlib.Tactic.Ring
import UrbanFlow.Experiments.Usage
import UrbanFlow.Library.Machine

/-!
# Every sequence of operations on the usage

The usage of a day is what was reserved on it and not given back, no experiment
is given back more on a day than it reserved on it, and a settled experiment
keeps reserved what its finished runs cost. This holds as long as no restart
loses a cancellation that has not settled, no operation meets midnight, and every
planned run of a completed experiment has finished.
-/

namespace UrbanFlow

open PreparedRuns

attribute [local simp] AccountedRecord.restarted

/-- A settled experiment: cancelled and stopped, or completed. -/
def AccountedRecord.Settled (record : AccountedRecord) : Prop :=
  record.status = .cancelled ∧ record.settling = false ∨ record.status = .completed

namespace ExperimentAccounts

variable {created day checkpoint : Nat} {seconds : ℚ}

structure Exact (accounts : ExperimentAccounts) : Prop where
  /-- The usage of a day is what was reserved on it without what was given
  back. -/
  usage : ∀ day, accounts.usage day =
    accounts.ledger.balance (Finset.range accounts.records.length) day
  /-- No experiment was given back more on a day than it reserved on it. -/
  covered : accounts.ledger.Covered
  /-- A settled experiment keeps what its finished runs cost. -/
  settled : ∀ experiment record, accounts.recordOf experiment = some record → record.Settled →
      record.reservedSeconds = record.prepared.simulatedSeconds (accounts.finished experiment)

/-- An operation reads one day, a completed experiment has had every planned run
finish, and no experiment is still stopping at a restart. -/
def Meets (accounts : ExperimentAccounts) : AccountStep → Prop
  | .submit _ reservedOn recordedOn _ _ => reservedOn = recordedOn
  | .resume _ reservedOn recordedOn _ _ => reservedOn = recordedOn
  | .runFinish experiment .completed finished =>
    ∀ record, accounts.recordOf experiment = some record → record.cancelRequested = false →
        record.prepared.totalRuns ≤ record.kept + finished
  | .restart => ∀ experiment record,
      accounts.recordOf experiment = some record → record.settling = false
  | _ => True

/-! ## The invariant -/

/-- The usage of the user agrees with the ledger of some experiments, and no
other experiment has entries. -/
structure Balanced (accounts : ExperimentAccounts) (created : Nat) : Prop where
  usage : ∀ day, accounts.usage day = accounts.ledger.balance (Finset.range created) day
  covered : accounts.ledger.Covered
  untouched : ∀ experiment, created ≤ experiment → ∀ day, accounts.ledger.net experiment day = 0

/-- The ledger backs a record: while a run is to come or under way, the runs that
are missing are reserved on the day of the record. -/
structure Backed (accounts : ExperimentAccounts) (experiment : Nat)
    (record : AccountedRecord) : Prop where
  pending : record.run ≠ .done → record.reservedSeconds =
        record.prepared.simulatedSeconds record.prepared.totalRuns ∧
      record.kept ≤ record.prepared.totalRuns ∧
      record.prepared.duration * (record.prepared.totalRuns - record.kept) ≤
        accounts.ledger.net experiment record.usageDay ∧
      (record.status = .queued ∨ record.status = .running ∨
        record.status = .cancelled ∧ record.settling = true)
  resting : record.run = .done → record.status ≠ .queued ∧ record.status ≠ .running ∧
      record.settling = false
  cancelled : record.status = .cancelled → record.settling = false →
    record.reservedSeconds = record.prepared.simulatedSeconds record.kept ∧
      record.kept ≤ record.prepared.totalRuns ∧
      accounts.finished experiment = record.kept
  completed : record.status = .completed → record.reservedSeconds =
      record.prepared.simulatedSeconds (accounts.finished experiment)

/-- The invariant of the accounting. -/
structure Sound (accounts : ExperimentAccounts) : Prop where
  balanced : accounts.Balanced accounts.records.length
  backed : ∀ experiment record, accounts.recordOf experiment = some record →
    accounts.Backed experiment record

variable {accounts next : ExperimentAccounts} {experiment : Nat} {record : AccountedRecord}

theorem Sound.exact (sound : accounts.Sound) : accounts.Exact where
  usage := sound.balanced.usage
  covered := sound.balanced.covered
  settled := by
    intro experiment record isRecord isSettled
    have backed := sound.backed experiment record isRecord
    obtain ⟨isCancelled, notSettling⟩ | isCompleted := isSettled
    · obtain ⟨isReserved, _, isFinished⟩ := backed.cancelled isCancelled notSettling
      rw [isReserved, isFinished]
    · exact backed.completed isCompleted

/-! ## Reserving and giving back -/

section

variable (balanced : accounts.Balanced created)

include balanced

theorem Balanced.succ : accounts.Balanced (created + 1) where
  usage := by
    intro day
    rw [balanced.usage day]
    refine (Ledger.balance_of_subset _ ?_ ?_).symm
    · exact Finset.range_subset_range.mpr (Nat.le_succ created)
    · intro other notIn
      exact balanced.untouched other (by simpa using notIn) day
  covered := balanced.covered
  untouched := fun other isLater => balanced.untouched other (Nat.le_of_succ_le isLater)

theorem Balanced.reserve (inside : experiment < created)
    (nonneg : 0 ≤ seconds) (reserved : accounts.reserve experiment day seconds = some next) :
    next.Balanced created ∧ next.records = accounts.records ∧ next.finished = accounts.finished ∧
      ∀ other held, next.ledger.net other held = accounts.ledger.net other held +
          if other = experiment ∧ held = day then seconds else 0 := by
  unfold ExperimentAccounts.reserve at reserved
  split at reserved
  · cases reserved
  · cases reserved
    refine ⟨⟨?_, ?_, ?_⟩, rfl, rfl, ?_⟩
    · intro held
      rw [Ledger.balance_charge _ (Finset.mem_range.mpr inside), ← balanced.usage held]
      by_cases isDay : held = day
      · subst isDay
        simp
      · simp [isDay]
    · exact balanced.covered.charge experiment day nonneg
    · intro other isLater held
      rw [Ledger.net_charge, balanced.untouched other isLater held]
      have different : other ≠ experiment := by omega
      simp [different]
    · exact fun other held => Ledger.net_charge _ _ _ _ _ _

/-- Giving back no more than what is left of the day's reservations takes it from
the usage and from the ledger. -/
theorem Balanced.release (inside : experiment < created)
    (nonneg : 0 ≤ seconds) (within : seconds ≤ accounts.ledger.net experiment day) :
    (accounts.release experiment day seconds).Balanced created ∧
      (accounts.release experiment day seconds).records = accounts.records ∧
      (accounts.release experiment day seconds).finished = accounts.finished ∧
      ∀ other held, (accounts.release experiment day seconds).ledger.net other held =
          accounts.ledger.net other held -
            if other = experiment ∧ held = day then seconds else 0 := by
  unfold ExperimentAccounts.release
  split
  · next notPositive =>
      obtain rfl : seconds = 0 := le_antisymm notPositive nonneg
      exact ⟨balanced, rfl, rfl, by simp⟩
  · have enough : seconds ≤ accounts.usage day := by
      rw [balanced.usage day]
      exact within.trans (balanced.covered.net_le_balance (Finset.mem_range.mpr inside) day)
    refine ⟨⟨?_, ?_, ?_⟩, rfl, rfl, ?_⟩
    · intro held
      rw [Ledger.balance_refund _ (Finset.mem_range.mpr inside), ← balanced.usage held]
      by_cases isDay : held = day
      · subst isDay
        simp [max_eq_right (sub_nonneg.mpr enough)]
      · simp [isDay]
    · exact balanced.covered.refund within
    · intro other isLater held
      rw [Ledger.net_refund, balanced.untouched other isLater held]
      have different : other ≠ experiment := by omega
      simp [different]
    · exact fun other held => Ledger.net_refund _ _ _ _ _ _

end

/-! ## One operation -/

theorem Backed.congr (backed : accounts.Backed experiment record)
    (sameNet : ∀ day, next.ledger.net experiment day = accounts.ledger.net experiment day)
    (sameFinished : next.finished experiment = accounts.finished experiment) :
    next.Backed experiment record where
  pending := by
    rw [sameNet]
    exact backed.pending
  resting := backed.resting
  cancelled := by
    rw [sameFinished]
    exact backed.cancelled
  completed := by
    rw [sameFinished]
    exact backed.completed

theorem recordOf_set {records : List (Option AccountedRecord)}
    (isRecords : next.records = records.set experiment (some record)) {other : Nat}
    {held : AccountedRecord} (isHeld : next.recordOf other = some held) :
    other = experiment ∧ held = record ∨ other ≠ experiment ∧ records[other]?.join = some held := by
  unfold recordOf at isHeld
  rw [isRecords] at isHeld
  by_cases isOurs : other = experiment
  · subst isOurs
    refine Or.inl ⟨rfl, ?_⟩
    rw [List.getElem?_set_self'] at isHeld
    cases found : records[other]? with
    | none => simp [found] at isHeld
    | some => simpa [found, eq_comm] using isHeld
  · refine Or.inr ⟨isOurs, ?_⟩
    rwa [List.getElem?_set_ne (Ne.symm isOurs)] at isHeld

theorem Sound.of_put (sound : accounts.Sound)
    (records : next.records = accounts.records.set experiment (some record))
    (balanced : next.Balanced accounts.records.length)
    (sameNet : ∀ other, other ≠ experiment → ∀ day,
      next.ledger.net other day = accounts.ledger.net other day)
    (sameFinished : ∀ other, other ≠ experiment → next.finished other = accounts.finished other)
    (backed : next.Backed experiment record) :
    next.Sound where
  balanced := by
    rw [records, List.length_set]
    exact balanced
  backed := by
    intro other held isHeld
    obtain ⟨rfl, rfl⟩ | ⟨different, isOld⟩ := recordOf_set records isHeld
    · exact backed
    · exact (sound.backed other held isOld).congr (sameNet other different)
        (sameFinished other different)

theorem inside_of_recordOf (isRecord : accounts.recordOf experiment = some record) :
    experiment < accounts.records.length := by
  by_contra outside
  unfold recordOf at isRecord
  rw [List.getElem?_eq_none (Nat.le_of_not_lt outside)] at isRecord
  cases isRecord

theorem keptSeconds_eq (isReserved : record.reservedSeconds = record.prepared.simulatedSeconds
      record.prepared.totalRuns) (within : checkpoint ≤ record.prepared.totalRuns) :
    record.keptSeconds checkpoint = record.prepared.simulatedSeconds checkpoint := by
  unfold AccountedRecord.keptSeconds simulatedSeconds
  dsimp only
  split
  · next noRuns =>
      obtain rfl : checkpoint = 0 := by omega
      simp
  · next someRuns =>
      have isPositive : (record.prepared.totalRuns : ℚ) ≠ 0 := by exact_mod_cast someRuns
      rw [min_eq_left within, isReserved, simulatedSeconds]
      field_simp

/-- Settling gives back what the missing runs cost and keeps the cost of the
finished ones. -/
theorem settleCancelled_sound (sound : accounts.Sound)
    (isRecord : accounts.recordOf experiment = some record) (isPending : record.run ≠ .done)
    (more : record.kept ≤ checkpoint) (within : checkpoint ≤ record.prepared.totalRuns) :
    (accounts.settleCancelled experiment record checkpoint).Sound := by
  obtain ⟨isReserved, _, isBacked, _⟩ := (sound.backed experiment record isRecord).pending isPending
  have isKept := keptSeconds_eq isReserved within
  have inside := inside_of_recordOf isRecord
  have cast : (record.kept : ℚ) ≤ checkpoint := by exact_mod_cast more
  have castWithin : (checkpoint : ℚ) ≤ record.prepared.totalRuns := by exact_mod_cast within
  have positive := record.prepared.duration_pos
  have isRefund : record.reservedSeconds - record.keptSeconds checkpoint =
      record.prepared.duration * (record.prepared.totalRuns - checkpoint) := by
    rw [isReserved, isKept, simulatedSeconds, simulatedSeconds]
    ring
  have nonneg : 0 ≤ record.reservedSeconds - record.keptSeconds checkpoint := by
    rw [isRefund]
    exact mul_nonneg positive.le (sub_nonneg.mpr castWithin)
  have enough : record.reservedSeconds - record.keptSeconds checkpoint ≤
      accounts.ledger.net experiment record.usageDay := by
    rw [isRefund]
    refine le_trans (mul_le_mul_of_nonneg_left ?_ positive.le) isBacked
    linarith
  obtain ⟨balanced, sameRecords, sameFinished, nets⟩ := sound.balanced.release inside nonneg enough
  have isSettled : (record.settleCancelled checkpoint).kept = checkpoint := rfl
  have isPut : (accounts.settleCancelled experiment record checkpoint).records =
      accounts.records.set experiment (some (record.settleCancelled checkpoint)) := by
    simp [settleCancelled, put, sameRecords]
  refine sound.of_put isPut ?_ ?_ ?_ ?_
  · exact ⟨balanced.usage, balanced.covered, balanced.untouched⟩
  · intro other different day
    have isNet := nets other day
    simp only [different, false_and, if_false, sub_zero] at isNet
    exact isNet
  · intro other different
    exact Function.update_of_ne different _ _
  · refine ⟨?_, ?_, ?_, ?_⟩
    · intro notDone
      exact absurd rfl notDone
    · intro _
      refine ⟨?_, ?_, rfl⟩
      · simp [AccountedRecord.settleCancelled]
      · simp [AccountedRecord.settleCancelled]
    · intro _ _
      rw [isSettled]
      exact ⟨isKept, within, Function.update_self _ _ _⟩
    · intro isCompleted
      simp [AccountedRecord.settleCancelled] at isCompleted

theorem put_sound (sound : accounts.Sound) {changed : AccountedRecord}
    (backed : accounts.Backed experiment changed) : (accounts.put experiment changed).Sound := by
  refine sound.of_put rfl ?_ (fun _ _ _ => rfl) (fun _ _ => rfl) ?_
  · exact ⟨sound.balanced.usage, sound.balanced.covered, sound.balanced.untouched⟩
  · exact backed.congr (fun _ => rfl) rfl

section

variable (sound : accounts.Sound) (isRecord : accounts.recordOf experiment = some record)

include sound isRecord

theorem runStart_sound : (accounts.runStart experiment record).Sound := by
  unfold runStart
  split
  · exact sound
  · next isSubmitted =>
      have isPending : record.run ≠ .done := by
        rw [not_not.mp isSubmitted]
        simp
      have backed := sound.backed experiment record isRecord
      split
      · exact settleCancelled_sound sound isRecord isPending le_rfl (backed.pending isPending).2.1
      · obtain ⟨isReserved, isWithin, isBacked, _⟩ := backed.pending isPending
        refine put_sound sound ⟨?_, ?_, ?_, ?_⟩
        · exact fun _ => ⟨isReserved, isWithin, isBacked, Or.inr (Or.inl rfl)⟩
        · exact nofun
        · exact nofun
        · exact nofun

theorem runFinish_sound (outcome : RunOutcome) (finished : Nat)
    (meets : accounts.Meets (.runFinish experiment outcome finished)) :
    (accounts.runFinish experiment record outcome finished).Sound := by
  unfold runFinish
  split
  · exact sound
  · next isWorking =>
      have isPending : record.run ≠ .done := by
        rw [not_not.mp isWorking]
        simp
      have backed := sound.backed experiment record isRecord
      obtain ⟨isReserved, isWithin, _, _⟩ := backed.pending isPending
      have settles : (accounts.settleCancelled experiment record (record.kept +
            min finished (record.prepared.totalRuns - record.kept))).Sound :=
        settleCancelled_sound sound isRecord isPending (by omega) (by omega)
      cases outcome with
      | raised =>
        refine put_sound sound ⟨?_, ?_, ?_, ?_⟩
        · intro notDone
          exact absurd rfl notDone
        · intro _
          exact ⟨by simp, by simp, rfl⟩
        · exact nofun
        · exact nofun
      | cancelled => exact settles
      | completed =>
        dsimp only
        split
        · exact settles
        · next notRequested =>
          have everyRun : record.kept + min finished (record.prepared.totalRuns - record.kept) =
                record.prepared.totalRuns := by
            have enough := meets record isRecord (by simpa using notRequested)
            omega
          rw [everyRun]
          refine sound.of_put rfl ?_ (fun _ _ _ => rfl) ?_ ?_
          · exact ⟨sound.balanced.usage, sound.balanced.covered, sound.balanced.untouched⟩
          · intro other different
            exact Function.update_of_ne different _ _
          · refine ⟨?_, ?_, ?_, ?_⟩
            · intro notDone
              exact absurd rfl notDone
            · intro _
              exact ⟨by simp, by simp, rfl⟩
            · exact nofun
            · intro _
              simpa [put] using isReserved

theorem cancel_sound : (accounts.cancel experiment record).Sound := by
  unfold cancel
  split
  · next isBusy =>
      have backed := sound.backed experiment record isRecord
      have isPending : record.run ≠ .done := by
        intro isDone
        obtain ⟨notQueued, notRunning, _⟩ := backed.resting isDone
        exact isBusy.elim notQueued notRunning
      obtain ⟨isReserved, isWithin, isBacked, _⟩ := backed.pending isPending
      refine put_sound sound ⟨?_, ?_, ?_, ?_⟩
      · exact fun _ => ⟨isReserved, isWithin, isBacked, Or.inr (Or.inr ⟨rfl, rfl⟩)⟩
      · exact fun isDone => absurd isDone isPending
      · exact nofun
      · exact nofun
  · exact sound

theorem resume_sound (day : Nat) (admitted started : Bool) :
    (accounts.resume experiment record day day admitted started).Sound := by
  dsimp only [resume]
  split
  · exact sound
  · next isResumable =>
      simp only [not_or, not_not, Bool.not_eq_true] at isResumable
      obtain ⟨isCancelled, notSettling, _⟩ := isResumable
      have backed := sound.backed experiment record isRecord
      obtain ⟨isReserved, isWithin, isFinished⟩ := backed.cancelled isCancelled notSettling
      have inside := inside_of_recordOf isRecord
      have nonneg : 0 ≤ record.prepared.simulatedSeconds
          (record.prepared.totalRuns - record.kept) :=
        mul_nonneg record.prepared.duration_pos.le (Nat.cast_nonneg _)
      split
      · exact sound
      · next reserved isReservation =>
          obtain ⟨balanced, sameRecords, sameFinished, nets⟩ :=
            sound.balanced.reserve inside nonneg isReservation
          have isNet := nets experiment day
          simp only [and_self, if_true] at isNet
          split
          · have isPut : ∀ changed : AccountedRecord, (reserved.put experiment changed).records =
                  accounts.records.set experiment (some changed) := by
              intro changed
              simp only [put, sameRecords]
            refine sound.of_put (isPut _) ⟨balanced.usage, balanced.covered,
              balanced.untouched⟩ ?_ ?_ ⟨?_, ?_, ?_, ?_⟩
            · intro other different held
              have otherNet := nets other held
              simp only [different, false_and, if_false, add_zero] at otherNet
              exact otherNet
            · intro other _
              simp [put, sameFinished]
            · intro _
              refine ⟨?_, isWithin, ?_, Or.inl rfl⟩
              · simp only [isReserved, simulatedSeconds]
                rw [Nat.cast_sub isWithin]
                ring
              · simp only [put]
                rw [isNet, simulatedSeconds, Nat.cast_sub isWithin]
                have wasNonneg := sound.balanced.covered.net_nonneg experiment day
                simp only [AccountedRecord.kept] at wasNonneg ⊢
                linarith
            · exact nofun
            · exact nofun
            · exact nofun
          · have enough : record.prepared.simulatedSeconds
                (record.prepared.totalRuns - record.kept) ≤ reserved.ledger.net experiment day := by
              rw [isNet]
              have wasNonneg := sound.balanced.covered.net_nonneg experiment day
              linarith
            obtain ⟨stillBalanced, stillRecords, stillFinished, released⟩ :=
              balanced.release inside nonneg enough
            refine ⟨?_, ?_⟩
            · rw [stillRecords, sameRecords]
              exact stillBalanced
            · intro other held isHeld
              unfold recordOf at isHeld
              rw [stillRecords, sameRecords] at isHeld
              refine (sound.backed other held isHeld).congr ?_ ?_
              · intro held
                rw [released, nets]
                ring
              · rw [stillFinished, sameFinished]

end

section

variable (sound : accounts.Sound)

include sound

theorem submit_sound (prepared : PreparedRuns) (day : Nat) (admitted started : Bool) :
    (accounts.submit prepared day day admitted started).Sound := by
  dsimp only [submit]
  split
  · exact sound
  · have nonneg : 0 ≤ prepared.simulatedSeconds prepared.totalRuns :=
      mul_nonneg prepared.duration_pos.le (Nat.cast_nonneg _)
    split
    · exact sound
    · next reserved isReservation =>
        obtain ⟨balanced, sameRecords, sameFinished, nets⟩ :=
          sound.balanced.succ.reserve (Nat.lt_succ_self _) nonneg isReservation
        have isNew : accounts.ledger.net accounts.records.length day = 0 :=
          sound.balanced.untouched _ le_rfl day
        have isNet := nets accounts.records.length day
        simp only [and_self, if_true, isNew, zero_add] at isNet
        have appended : ∀ (added : Option AccountedRecord) {other held},
            ((accounts.records ++ [added])[other]?).join = some held →
              other < accounts.records.length ∧ accounts.recordOf other = some held ∨
                other = accounts.records.length ∧ added = some held := by
          intro added other held isHeld
          rw [List.getElem?_append] at isHeld
          split at isHeld
          · next inside => exact Or.inl ⟨inside, isHeld⟩
          · next outside =>
              refine Or.inr ?_
              by_cases isLast : other = accounts.records.length
              · subst isLast
                exact ⟨rfl, by simpa using isHeld⟩
              · rw [List.getElem?_eq_none (by simp only [List.length_singleton]; omega)] at isHeld
                cases isHeld
        split
        · refine ⟨?_, ?_⟩
          · simp only [List.length_append, List.length_singleton]
            exact ⟨balanced.usage, balanced.covered, balanced.untouched⟩
          · intro other held isHeld
            obtain ⟨inside, wasHeld⟩ | ⟨rfl, isAdded⟩ := appended _ isHeld
            · refine (sound.backed other held wasHeld).congr ?_ ?_
              · intro heldDay
                have otherNet := nets other heldDay
                have different : other ≠ accounts.records.length := by omega
                simpa only [different, false_and, if_false, add_zero] using otherNet
              · exact congrFun sameFinished other
            · cases isAdded
              refine ⟨?_, ?_, ?_, ?_⟩
              · intro _
                refine ⟨rfl, Nat.zero_le _, ?_, Or.inl rfl⟩
                simp only [isNet]
                simp [simulatedSeconds, AccountedRecord.kept]
              · exact nofun
              · exact nofun
              · exact nofun
        · obtain ⟨stillBalanced, stillRecords, stillFinished, released⟩ :=
            balanced.release (Nat.lt_succ_self _) nonneg isNet.ge
          refine ⟨?_, ?_⟩
          · simp only [List.length_append, List.length_singleton]
            exact ⟨stillBalanced.usage, stillBalanced.covered, stillBalanced.untouched⟩
          · intro other held isHeld
            obtain ⟨inside, wasHeld⟩ | ⟨_, isAdded⟩ := appended _ isHeld
            · refine (sound.backed other held wasHeld).congr ?_ ?_
              · intro heldDay
                change ((reserved.release accounts.records.length day
                  (prepared.simulatedSeconds prepared.totalRuns)).ledger.net other heldDay) = _
                rw [released, nets]
                ring
              · exact congrFun (stillFinished.trans sameFinished) other
            · cases isAdded


theorem delete_sound (isRecord : accounts.recordOf experiment = some record) :
    (accounts.delete experiment record).Sound := by
  unfold delete
  split
  · exact sound
  · refine ⟨?_, ?_⟩
    · simp only [List.length_set]
      exact ⟨sound.balanced.usage, sound.balanced.covered, sound.balanced.untouched⟩
    · intro other held isHeld
      have wasHeld : accounts.recordOf other = some held := by
        have inside := inside_of_recordOf isRecord
        unfold recordOf at isHeld ⊢
        by_cases isOurs : other = experiment
        · subst isOurs
          simp [inside] at isHeld
        · rwa [List.getElem?_set_ne (Ne.symm isOurs)] at isHeld
      exact (sound.backed other held wasHeld).congr (fun _ => rfl) rfl

/-- A restart when no experiment is still stopping. -/
theorem restart_sound (meets : accounts.Meets .restart) : (accounts.step .restart).Sound := by
  refine ⟨?_, ?_⟩
  · simp only [step, List.length_map]
    exact ⟨sound.balanced.usage, sound.balanced.covered, sound.balanced.untouched⟩
  · intro experiment restarted isRestarted
    obtain ⟨record, isRecord, rfl⟩ : ∃ record, accounts.recordOf experiment = some record ∧
          record.restarted = restarted := by
      unfold recordOf at isRestarted ⊢
      simp only [step, List.getElem?_map] at isRestarted
      cases found : accounts.records[experiment]? with
      | none => simp [found] at isRestarted
      | some => simpa [found] using isRestarted
    have backed := sound.backed experiment record isRecord
    have notSettling := meets experiment record isRecord
    refine ⟨?_, ?_, ?_, ?_⟩
    · intro notDone
      exact absurd rfl notDone
    · intro _
      refine ⟨?_, ?_, rfl⟩
      · cases isStatus : record.status <;> simp [isStatus]
      · cases isStatus : record.status <;> simp [isStatus]
    · intro isCancelled _
      refine backed.cancelled ?_ notSettling
      cases isStatus : record.status <;> simp [isStatus] at isCancelled ⊢
    · intro isCompleted
      refine backed.completed ?_
      cases isStatus : record.status <;> simp [isStatus] at isCompleted ⊢

theorem onRecord_sound {operate : AccountedRecord → ExperimentAccounts}
    (operated : ∀ record, accounts.recordOf experiment = some record → (operate record).Sound) :
    (accounts.onRecord experiment operate).Sound := by
  unfold onRecord
  split
  · exact sound
  · next record isRecord => exact operated record isRecord

theorem step_sound (operation : AccountStep) (meets : accounts.Meets operation) :
    (accounts.step operation).Sound := by
  cases operation with
  | submit prepared reservedOn recordedOn admitted started =>
    obtain rfl : reservedOn = recordedOn := meets
    exact submit_sound sound prepared reservedOn admitted started
  | runStart =>
    exact onRecord_sound sound fun record isRecord => runStart_sound sound isRecord
  | runFinish _ outcome finished =>
    exact onRecord_sound sound fun record isRecord =>
      runFinish_sound sound isRecord outcome finished meets
  | cancel =>
    exact onRecord_sound sound fun record isRecord => cancel_sound sound isRecord
  | resume _ reservedOn recordedOn admitted started =>
    obtain rfl : reservedOn = recordedOn := meets
    exact onRecord_sound sound fun record isRecord =>
      resume_sound sound isRecord reservedOn admitted started
  | delete =>
    exact onRecord_sound sound fun record isRecord => delete_sound sound isRecord
  | restart => exact restart_sound sound meets

end

theorem empty_sound : ({} : ExperimentAccounts).Sound where
  balanced :=
    { usage := by
        intro day
        simp [Ledger.balance]
      covered := Ledger.covered_empty
      untouched := by
        intro experiment _ day
        exact sub_zero _ }
  backed := by
    intro experiment record isRecord
    simp [recordOf] at isRecord

end ExperimentAccounts

/-! ## Runs -/

/-- The operations on one user's experiments, in the order in which they take
place. -/
structure AccountRun where
  steps : Nat → AccountStep

namespace AccountRun

/-- The user's accounts before operation `n`. -/
def accountsAt (run : AccountRun) : Nat → ExperimentAccounts :=
  Machine.stateAt ExperimentAccounts.step {} run.steps

/-- Every operation meets the condition. -/
def Clean (run : AccountRun) : Prop := ∀ n, (run.accountsAt n).Meets (run.steps n)

variable {run : AccountRun}

/-- An ensemble of two runs of 100 seconds. -/
def twoRuns : PreparedRuns where
  duration := 100
  totalRuns := 2
  duration_pos := by norm_num

/-- The process restarts while a cancelled experiment is stopping. It is resumed
on the next day and cancelled again. -/
def restartedWhileStopping : AccountRun where
  steps
    | 0 => .submit twoRuns 0 0 true true
    | 1 => .runStart 0
    | 2 => .cancel 0
    | 3 => .restart
    | 4 => .resume 0 1 1 true true
    | 5 => .runStart 0
    | 6 => .cancel 0
    | _ => .runFinish 0 .cancelled 0

/-- The day ends between the reservation of a submission and its record. -/
def submittedAtMidnight : AccountRun where
  steps
    | 0 => .submit twoRuns 0 1 true true
    | 1 => .cancel 0
    | _ => .runStart 0

/-- One of the two runs of a completed experiment raised. -/
def completedInPart : AccountRun where
  steps
    | 0 => .submit twoRuns 0 0 true true
    | 1 => .runStart 0
    | _ => .runFinish 0 .completed 1

theorem not_exact_of_settled {accounts : ExperimentAccounts} (experiment : Nat)
    (wrong : ∃ record ∈ accounts.recordOf experiment,
      (record.status = .cancelled ∧ record.settling = false ∨ record.status = .completed) ∧
      record.reservedSeconds ≠ record.prepared.simulatedSeconds (accounts.finished experiment)) :
    ¬ accounts.Exact := by
  intro exact
  obtain ⟨record, isRecord, isSettled, differs⟩ := wrong
  exact differs (exact.settled experiment record isRecord isSettled)

/-- A cancelled experiment settles before the process restarts, is resumed on the
next day and completes. -/
def resumedNextDay : AccountRun where
  steps
    | 0 => .submit twoRuns 0 0 true true
    | 1 => .runStart 0
    | 2 => .cancel 0
    | 3 => .runFinish 0 .cancelled 1
    | 4 => .restart
    | 5 => .resume 0 1 1 true true
    | 6 => .runStart 0
    | 7 => .runFinish 0 .completed 1
    | _ => .delete 0

theorem resumedNextDay_clean : resumedNextDay.Clean := by
  intro n
  match n with
  | 1 | 2 | 3 | 6 => trivial
  | 0 | 5 => rfl
  | 4 =>
    intro experiment record isRecord
    have noneSettling : ∀ held ∈ (resumedNextDay.accountsAt 4).records,
        ∀ record ∈ held, record.settling = false := by decide +kernel
    have isHeld := Option.join_eq_some_iff.mp isRecord
    exact noneSettling _ (List.mem_of_getElem? isHeld) record rfl
  | 7 =>
    change ∀ record ∈ (resumedNextDay.accountsAt 7).recordOf 0,
      record.cancelRequested = false → record.prepared.totalRuns ≤ record.kept + 1
    decide +kernel
  | n + 8 => trivial

end AccountRun
end UrbanFlow
