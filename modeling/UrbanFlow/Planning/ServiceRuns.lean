import UrbanFlow.Library.Machine
import UrbanFlow.Library.Tables
import UrbanFlow.Planning.Service

/-!
# Every interleaving of the planning service's steps

A job's worker settles the status of its study before it ends. Three more
promises hold as long as no step is overtaken: a submission stores its record
while there is still room for it, the registry still takes the job, and a
deletion does not come between a worker's write of the outcome and the put and
the save that follow it.
-/

namespace UrbanFlow.Planning

open Stage

namespace Stage

section

variable (stage : Stage)

/-- The worker has written the outcome. -/
def Settled : Prop :=
  stage = .settled ∨ stage = .keptAgain ∨ stage = .savedAgain ∨ stage = .finished

/-- The worker has put the settled record. -/
def KeptAgain : Prop := stage = .keptAgain ∨ stage = .savedAgain ∨ stage = .finished

/-- The worker has saved the settled record. -/
def SavedAgain : Prop := stage = .savedAgain ∨ stage = .finished

end

/-- The status that goes with a stage. -/
def Allows : Stage → Status → Prop
  | .kept, status => status = .queued
  | .saved, status => status = .queued
  | .refused, status => status = .queued
  | .submitted, status => status = .queued
  | .running, status => status = .running
  | .settled, status => ¬ status.Busy
  | .keptAgain, status => ¬ status.Busy
  | .savedAgain, status => ¬ status.Busy
  | .finished, status => ¬ status.Busy

section

variable {stage : Stage} {status : Status} (allowed : stage.Allows status)

include allowed

/-- Only once the outcome is written is the status neither queued nor
running. -/
theorem Allows.settled (idle : ¬ status.Busy) : stage.Settled := by
  cases stage <;> simp_all [Allows, Settled, Status.Busy]

theorem Allows.idle (settled : stage.Settled) : ¬ status.Busy := by
  rcases settled with rfl | rfl | rfl | rfl <;> exact allowed

end

end Stage

namespace Study

/-- The study is as its threads have left it: its status goes with its stage,
it is in memory until the outcome is written, and its row shows an outcome only
once that is saved. -/
structure Tidy (study : Study) : Prop where
  status : study.stage.Allows study.record.status
  inMemory : ¬ study.stage.Settled → study.inMemory
  row : ∀ row ∈ study.row, ¬ row.status.Busy → study.stage.SavedAgain

/-- A deletion has taken the study out of memory for good. -/
structure Popped (study : Study) : Prop where
  notInMemory : study.inMemory = false
  keptAgain : study.stage.KeptAgain

/-- A deletion has removed the study for good. -/
structure Gone (persist : Bool) (study : Study) : Prop where
  popped : study.Popped
  noRow : persist → study.row = none ∧ study.stage.SavedAgain

variable {study : Study} {persist : Bool}

theorem Tidy.active (tidy : study.Tidy) (busy : study.Busy) : study.Active :=
  ⟨tidy.inMemory fun settled => tidy.status.idle settled busy, busy⟩

theorem Tidy.settled (tidy : study.Tidy) {record : Record}
    (found : study.lookUp persist = some record) (idle : ¬ record.status.Busy) :
    study.stage.Settled := by
  unfold lookUp at found
  split at found
  · obtain rfl : study.record = record := by simpa using found
    exact tidy.status.settled idle
  · split at found
    · have saved := tidy.row record found idle
      exact saved.elim (fun atStage => .inr (.inr (.inl atStage)))
        fun atStage => .inr (.inr (.inr atStage))
    · simp at found

/-- Before its outcome is saved, a study's row shows it queued or running. -/
theorem Tidy.row_busy (tidy : study.Tidy) (unsaved : ¬ study.stage.SavedAgain) :
    ∀ row ∈ study.row, row.status.Busy := by
  intro row isRow
  by_contra idle
  exact unsaved (tidy.row row isRow idle)

theorem Gone.lookUp_eq (gone : study.Gone persist) : study.lookUp persist = none := by
  unfold lookUp
  rw [gone.popped.notInMemory]
  cases persist with
  | false => simp
  | true => simpa using (gone.noRow rfl).1

theorem ofRow_tidy (row : Record) : (ofRow row).Tidy := by
  have idle : ¬ row.markInterrupted.status.Busy := by
    unfold Record.markInterrupted
    split
    · simp [Status.Busy]
    · assumption
  refine ⟨idle, fun unsettled => ?_, fun _ _ _ => .inr rfl⟩
  exact absurd (.inr (.inr (.inr rfl))) unsettled

end Study

namespace Service

/-- What has to hold before a step: a record is stored while fewer than the
allowed number of studies are active, a job is submitted while the registry has
room for it, and a deletion takes a study out of memory and removes its row when
the worker's put and its save of the outcome are behind it. -/
def StepOrderly (service : Service) : Step → Prop
  | .submitKeep submission =>
    submission < service.submissions.length → service.active < maxActivePlanningJobs
  | .submitStart study =>
    (service.studyAt study .saved).isSome → service.unfinishedJobs < maxActiveJobs
  | .deletePop deletion =>
    ∀ found ∈ service.deletionAt deletion .checked, service.studyAt found.study .settled = none
  | .deleteRow deletion _ =>
    ∀ found ∈ service.deletionAt deletion .popped, service.studyAt found.study .keptAgain = none
  | _ => True

/-- What the service promises: no more studies are queued or running than
allowed, a refused submission leaves no record, a study whose job has ended has
completed or failed, and a deleted study is not to be found. -/
structure AsPromised (service : Service) : Prop where
  bounded : service.studies.countP (fun study => study.Busy) ≤ maxActivePlanningJobs
  refused : ∀ study ∈ service.refused, ∀ userId, service.get userId study = none
  ended : ∀ study ∈ service.studies, study.stage = .finished →
    study.record.status = .completed ∨ study.record.status = .failed
  deleted : ∀ study ∈ service.deleted, ∀ userId, service.get userId study = none

/-- What an orderly run keeps. -/
structure Sound (service : Service) : Prop where
  tidy : ∀ study ∈ service.studies, study.Tidy
  bounded : service.studies.countP (fun study => study.Busy) ≤ maxActivePlanningJobs
  accepted : service.refused = [] ∧ ∀ study ∈ service.studies, study.stage ≠ .refused
  deleting : ∀ deletion ∈ service.deletions,
    ∃ study, service.studies[deletion.study]? = some study ∧
      study.stage.Settled ∧ (deletion.phase = .popped → study.Popped)
  deleted : ∀ deletion ∈ service.deleted, ∃ study, service.studies[deletion]? = some study ∧
      study.Gone service.persist

variable {service : Service}

theorem Sound.asPromised (sound : service.Sound) : service.AsPromised := by
  refine ⟨sound.bounded, ?refused, ?ended, ?deleted⟩
  case refused =>
    intro study refused
    rw [sound.accepted.1] at refused
    exact absurd refused List.not_mem_nil
  case ended =>
    intro study member finished
    have idle : ¬ study.record.status.Busy := by
      have allowed := (sound.tidy study member).status
      rwa [finished] at allowed
    cases status : study.record.status <;> simp_all [Status.Busy]
  case deleted =>
    intro deletion deleted userId
    obtain ⟨study, found, gone⟩ := sound.deleted deletion deleted
    simp [get, found, gone.lookUp_eq]

theorem studyAt_some {place : Nat} {stage : Stage} {study : Study}
    (found : service.studyAt place stage = some study) :
    service.studies[place]? = some study ∧ study.stage = stage := by
  simpa [studyAt] using found

/-- What a change of one study has to keep. -/
structure Keeps (persist : Bool) (study next : Study) : Prop where
  tidy : next.Tidy
  noMore : next.Busy → study.Busy
  accepted : next.stage ≠ .refused
  settled : study.stage.Settled → next.stage.Settled
  popped : study.Popped → next.Popped
  gone : study.Gone persist → next.Gone persist

/-- Before its outcome is written, no deletion has touched a study. -/
theorem Keeps.of_unsettled {persist : Bool} {study next : Study}
    (unsettled : ¬ study.stage.Settled) (tidy : next.Tidy) (noMore : next.Busy → study.Busy)
    (accepted : next.stage ≠ .refused) : Keeps persist study next := by
  have notPopped : ¬ study.Popped := fun popped => unsettled (Or.inr popped.keptAgain)
  exact ⟨tidy, noMore, accepted, fun settled => absurd settled unsettled,
    fun popped => absurd popped notPopped,
    fun gone => absurd gone.popped notPopped⟩

theorem change_sound (sound : service.Sound) {place : Nat} {study : Study}
    {update : Study → Study} (found : service.studies[place]? = some study)
    (keeps : Keeps service.persist study (update study)) : (service.change place update).Sound where
  tidy := Tables.forall_modify sound.tidy found keeps.tidy
  bounded := Nat.le_trans (Tables.countP_modify_le found keeps.noMore) sound.bounded
  accepted := ⟨sound.accepted.1, Tables.forall_modify sound.accepted.2 found keeps.accepted⟩
  deleting deletion member := Tables.exists_modify (sound.deleting deletion member) found
      fun _ held => ⟨keeps.settled held.1, fun isPopped => keeps.popped (held.2 isPopped)⟩
  deleted deletion member :=
    Tables.exists_modify (sound.deleted deletion member) found fun _ held => keeps.gone held

/-- A thread of a study takes its next step. -/
theorem advance_sound (sound : service.Sound) (place : Nat) {stage : Stage}
    {update : Study → Study} (keeps : ∀ study, study.Tidy → study.stage = stage →
      Keeps service.persist study (update study)) : (service.advance place stage update).Sound := by
  unfold advance
  split
  case isFalse => exact sound
  case isTrue atStage =>
    obtain ⟨study, found⟩ := Option.isSome_iff_exists.mp atStage
    obtain ⟨isThere, isAt⟩ := studyAt_some found
    exact change_sound sound isThere
      (keeps study (sound.tidy study (List.mem_of_getElem? isThere)) isAt)

section

variable (sound : service.Sound)

include sound

theorem submitCount_sound (userId name : String) :
    (service.step (.submitCount userId name)).Sound := by
  simp only [step]
  split
  · exact sound
  · exact ⟨sound.tidy, sound.bounded, sound.accepted, sound.deleting, sound.deleted⟩

theorem Sound.busy_le_active :
    service.studies.countP (fun study => study.Busy) ≤ service.active := by
  refine List.countP_mono_left fun study member busy => ?_
  simp only [decide_eq_true_eq] at busy ⊢
  exact (sound.tidy study member).active busy

theorem submitKeep_sound {submission : Nat}
    (orderly : service.StepOrderly (.submitKeep submission)) :
    (service.step (.submitKeep submission)).Sound := by
  simp only [step]
  split
  case h_2 => exact sound
  case h_1 userId name found =>
    have room : service.active < maxActivePlanningJobs :=
      orderly (List.getElem?_eq_some_iff.mp found).1
    have busy := sound.busy_le_active
    refine ⟨?tidy, ?bounded, ?accepted, ?deleting, ?deleted⟩
    case tidy =>
      intro study member
      rcases List.mem_append.mp member with earlier | isNew
      · exact sound.tidy study earlier
      · obtain rfl := List.mem_singleton.mp isNew
        exact ⟨rfl, fun _ => rfl, by simp⟩
    case bounded =>
      have one : ∀ study : Study, [study].countP (fun study => study.Busy) ≤ 1 :=
        fun study => List.countP_le_length
      rw [List.countP_append]
      have := one { record := { userId := userId, name := name } }
      omega
    case accepted =>
      refine ⟨sound.accepted.1, fun study member => ?_⟩
      rcases List.mem_append.mp member with earlier | isNew
      · exact sound.accepted.2 study earlier
      · rw [List.mem_singleton.mp isNew]
        simp
    case deleting =>
      intro deletion member
      exact Tables.exists_append (sound.deleting deletion member) _
    case deleted =>
      intro deletion member
      exact Tables.exists_append (sound.deleted deletion member) _

theorem submitSave_sound (place : Nat) (written : Bool) :
    (service.step (.submitSave place written)).Sound := by
  refine advance_sound sound place fun study tidy atKept => ?_
  have unsettled : ¬ study.stage.Settled := by simp [Settled, atKept]
  have queued : study.record.status = .queued := by simpa [atKept, Stage.Allows] using tidy.status
  refine Keeps.of_unsettled unsettled ⟨queued, fun _ => tidy.inMemory unsettled, ?_⟩ id (by simp)
  intro row isRow idle
  simp only [save] at isRow
  split at isRow
  · obtain rfl : study.record = row := by simpa using isRow
    simp [Status.Busy, queued] at idle
  · exact absurd (tidy.row_busy (by simp [SavedAgain, atKept]) row isRow) idle

theorem submitStart_sound {place : Nat} (orderly : service.StepOrderly (.submitStart place)) :
    (service.step (.submitStart place)).Sound := by
  simp only [step]
  split
  case isTrue full =>
    -- the registry is full, so the submission is not at this step at all
    have notHere : service.studyAt place .saved = none := by
      by_contra atSaved
      have room := orderly (Option.isSome_iff_ne_none.mpr atSaved)
      omega
    have notRefused : service.studyAt place .refused = none := by
      by_contra atRefused
      obtain ⟨study, found⟩ := Option.ne_none_iff_exists'.mp atRefused
      obtain ⟨isThere, isAt⟩ := studyAt_some found
      exact sound.accepted.2 study (List.mem_of_getElem? isThere) isAt
    simpa [advance, notHere, noteRefused, notRefused] using sound
  case isFalse =>
    refine advance_sound sound place fun study tidy atSaved => ?_
    have unsettled : ¬ study.stage.Settled := by simp [Settled, atSaved]
    have queued : study.record.status = .queued := by simpa [atSaved, Stage.Allows] using tidy.status
    refine Keeps.of_unsettled unsettled ⟨queued, fun _ => tidy.inMemory unsettled, ?_⟩ id (by simp)
    intro row isRow idle
    exact absurd (tidy.row_busy (by simp [SavedAgain, atSaved]) row isRow) idle

theorem jobStart_sound (place : Nat) : (service.step (.jobStart place)).Sound := by
  refine advance_sound sound place fun study tidy atSubmitted => ?_
  have unsettled : ¬ study.stage.Settled := by simp [Settled, atSubmitted]
  have queued : study.record.status = .queued := by simpa [atSubmitted, Stage.Allows] using tidy.status
  refine Keeps.of_unsettled unsettled ⟨rfl, fun _ => tidy.inMemory unsettled, ?_⟩
    (fun _ => Or.inl queued) (by simp)
  intro row isRow idle
  exact absurd (tidy.row_busy (by simp [SavedAgain, atSubmitted]) row isRow) idle

end

/-- What `_execute` writes is neither queued nor running. -/
theorem settle_idle (outcome : Except String String) (record : Record) :
    ¬ (record.settle outcome).status.Busy := by
  cases outcome <;> simp [Record.settle, Status.Busy]

section

variable (sound : service.Sound) (place : Nat)

include sound

theorem jobSettle_sound (outcome : Except String String) :
    (service.step (.jobSettle place outcome)).Sound := by
  refine advance_sound sound place fun study tidy atRunning => ?_
  have idle := settle_idle outcome study.record
  refine Keeps.of_unsettled (by simp [Settled, atRunning])
    ⟨idle, fun unsettled => absurd (Or.inl rfl) unsettled, ?_⟩
    (fun busy => absurd busy idle) (by simp)
  intro row isRow rowIdle
  exact absurd (tidy.row_busy (by simp [SavedAgain, atRunning]) row isRow) rowIdle

theorem jobKeep_sound : (service.step (.jobKeep place)).Sound := by
  refine advance_sound sound place fun study tidy atSettled => ?_
  have notPopped : ¬ study.Popped := by
    intro popped
    simpa [KeptAgain, atSettled] using popped.keptAgain
  have idle : ¬ study.record.status.Busy := tidy.status.idle (Or.inl atSettled)
  refine ⟨⟨idle, fun _ => rfl, ?_⟩, id, by simp, fun _ => Or.inr (Or.inl rfl),
    fun popped => absurd popped notPopped,
    fun gone => absurd gone.popped notPopped⟩
  intro row isRow rowIdle
  exact absurd (tidy.row_busy (by simp [SavedAgain, atSettled]) row isRow) rowIdle

theorem jobSave_sound (written : Bool) : (service.step (.jobSave place written)).Sound := by
  refine advance_sound sound place fun study tidy atKept => ?_
  have settled : study.stage.Settled := Or.inr (Or.inl atKept)
  refine ⟨⟨tidy.status.idle settled, ?inMemory, fun _ _ _ => Or.inl rfl⟩, id,
    by simp, fun _ => Or.inr (Or.inr (Or.inl rfl)), ?popped, ?gone⟩
  case inMemory => exact fun unsettled => absurd (Or.inr (Or.inr (Or.inl rfl))) unsettled
  case popped => exact fun popped => ⟨popped.notInMemory, Or.inr (Or.inl rfl)⟩
  case gone =>
    intro gone
    refine ⟨⟨gone.popped.notInMemory, Or.inr (Or.inl rfl)⟩, fun persists => ?_⟩
    simpa [SavedAgain, atKept] using (gone.noRow persists).2

theorem jobFinish_sound : (service.step (.jobFinish place)).Sound := by
  refine advance_sound sound place fun study tidy atSaved => ?_
  have settled : study.stage.Settled := Or.inr (Or.inr (Or.inl atSaved))
  refine ⟨⟨tidy.status.idle settled, ?inMemory, fun _ _ _ => Or.inr rfl⟩, id,
    by simp, fun _ => Or.inr (Or.inr (Or.inr rfl)), ?popped, ?gone⟩
  case inMemory => exact fun unsettled => absurd (Or.inr (Or.inr (Or.inr rfl))) unsettled
  case popped => exact fun popped => ⟨popped.notInMemory, Or.inr (Or.inr rfl)⟩
  case gone =>
    exact fun gone => ⟨⟨gone.popped.notInMemory, Or.inr (Or.inr rfl)⟩,
      fun persists => ⟨(gone.noRow persists).1, Or.inr rfl⟩⟩

end

theorem deletionAt_some {deletion : Nat} {phase : DeletionPhase} {found : Deletion}
    (isAt : service.deletionAt deletion phase = some found) :
    service.deletions[deletion]? = some found ∧ found.phase = phase := by
  simpa [deletionAt] using isAt

section

variable (sound : service.Sound)

include sound

theorem deleteCheck_sound (userId : String) (place : Nat) :
    (service.step (.deleteCheck userId place)).Sound := by
  simp only [step]
  split
  case h_2 => exact sound
  case h_1 record found =>
    split
    · exact sound
    · rename_i idle
      refine ⟨sound.tidy, sound.bounded, sound.accepted, ?_, sound.deleted⟩
      intro deletion member
      rcases List.mem_append.mp member with earlier | isNew
      · exact sound.deleting deletion earlier
      · obtain rfl := List.mem_singleton.mp isNew
        have lookedUp := (Option.filter_eq_some_iff.mp found).1
        obtain ⟨study, isThere, isRecord⟩ := Option.bind_eq_some_iff.mp lookedUp
        have tidy := sound.tidy study (List.mem_of_getElem? isThere)
        exact ⟨study, isThere, tidy.settled isRecord idle, by simp⟩

theorem setPhase_sound {deletion : Nat} {found : Deletion}
    (isThere : service.deletions[deletion]? = some found) {phase : DeletionPhase}
    (allowed : phase = .popped → ∃ study, service.studies[found.study]? = some study ∧ study.Popped) :
    (service.setPhase deletion phase).Sound := by
  refine ⟨sound.tidy, sound.bounded, sound.accepted, ?_, sound.deleted⟩
  refine Tables.forall_modify sound.deleting isThere ?_
  obtain ⟨study, isStudy, settled, _⟩ := sound.deleting found (List.mem_of_getElem? isThere)
  refine ⟨study, isStudy, settled, fun isPopped => ?_⟩
  obtain ⟨_, isSame, _⟩ := allowed isPopped
  rwa [Option.some_inj.mp (isStudy.symm.trans isSame)]

theorem returned_sound {place : Nat}
    (gone : ∃ study, service.studies[place]? = some study ∧ study.Gone service.persist) :
    (service.returned place).Sound := by
  refine ⟨sound.tidy, sound.bounded, sound.accepted, sound.deleting, ?_⟩
  intro deletion member
  rcases List.mem_cons.mp member with rfl | earlier
  · exact gone
  · exact sound.deleted deletion earlier

/-- A deletion takes a settled study out of memory once the worker has put
it. -/
theorem pop_sound {place : Nat} {study : Study} (isThere : service.studies[place]? = some study)
    (keptAgain : study.stage.KeptAgain) : (service.change place fun found =>
        { found with inMemory := false }).Sound ∧
      ({ study with inMemory := false } : Study).Popped := by
  have tidy := sound.tidy study (List.mem_of_getElem? isThere)
  refine ⟨change_sound sound isThere ⟨⟨tidy.status, ?_, tidy.row⟩, id,
    sound.accepted.2 study (List.mem_of_getElem? isThere), id, ?_, ?_⟩,
    ⟨rfl, keptAgain⟩⟩
  · exact fun unsettled => absurd (Or.inr keptAgain) unsettled
  · exact fun _ => ⟨rfl, keptAgain⟩
  · exact fun gone => ⟨⟨rfl, keptAgain⟩, gone.noRow⟩

theorem deletePop_sound {deletion : Nat} (orderly : service.StepOrderly (.deletePop deletion)) :
    (service.step (.deletePop deletion)).Sound := by
  simp only [step]
  split
  case h_2 => exact sound
  case h_1 found isAt =>
    obtain ⟨isDeletion, _⟩ := deletionAt_some isAt
    obtain ⟨study, isThere, settled, _⟩ := sound.deleting found (List.mem_of_getElem? isDeletion)
    have keptAgain : study.stage.KeptAgain := by
      refine settled.resolve_left fun atSettled => ?_
      have notSettled := orderly found isAt
      simp [studyAt, isThere, atSettled] at notSettled
    obtain ⟨poppedSound, popped⟩ := pop_sound sound isThere keptAgain
    have isPopped : (service.change found.study fun other =>
        { other with inMemory := false }).studies[found.study]? =
          some { study with inMemory := false } := by
      simp [change, isThere]
    split
    · exact setPhase_sound poppedSound isDeletion fun _ => ⟨_, isPopped, popped⟩
    · rename_i volatile
      refine returned_sound (setPhase_sound poppedSound isDeletion fun isPhase => ?_) ?_
      · simp at isPhase
      · exact ⟨_, isPopped, popped, fun persists => absurd persists volatile⟩

theorem deleteRow_sound {deletion : Nat} {written : Bool}
    (orderly : service.StepOrderly (.deleteRow deletion written)) :
    (service.step (.deleteRow deletion written)).Sound := by
  simp only [step]
  split
  case h_2 => exact sound
  case h_1 found isAt =>
    obtain ⟨isDeletion, isPhase⟩ := deletionAt_some isAt
    obtain ⟨study, isThere, _, isPopped⟩ := sound.deleting found (List.mem_of_getElem? isDeletion)
    have popped := isPopped isPhase
    have tidy := sound.tidy study (List.mem_of_getElem? isThere)
    have ended : (service.setPhase deletion .done).Sound :=
      setPhase_sound sound isDeletion (by simp)
    split
    case isFalse => exact ended
    case isTrue =>
      have savedAgain : study.stage.SavedAgain := by
        refine popped.keptAgain.resolve_left fun atKept => ?_
        have notKept := orderly found isAt
        simp [studyAt, isThere, atKept] at notKept
      have gone : Study.Gone service.persist { study with row := none } :=
        ⟨⟨popped.notInMemory, popped.keptAgain⟩, fun _ => ⟨rfl, savedAgain⟩⟩
      have removed : ((service.setPhase deletion .done).change found.study
          fun other => { other with row := none }).Sound :=
        change_sound ended isThere ⟨⟨tidy.status, tidy.inMemory, by simp⟩, id,
            sound.accepted.2 study (List.mem_of_getElem? isThere), id,
            fun _ => gone.popped, fun _ => gone⟩
      exact returned_sound removed ⟨_, by simp [change, setPhase, isThere], gone⟩

theorem step_sound (next : Step) (orderly : service.StepOrderly next) :
    (service.step next).Sound := by
  cases next with
  | submitCount userId name => exact submitCount_sound sound userId name
  | submitKeep => exact submitKeep_sound sound orderly
  | submitSave study written => exact submitSave_sound sound study written
  | submitStart => exact submitStart_sound sound orderly
  | jobStart study => exact jobStart_sound sound study
  | jobSettle study outcome => exact jobSettle_sound sound study outcome
  | jobKeep study => exact jobKeep_sound sound study
  | jobSave study written => exact jobSave_sound sound study written
  | jobFinish study => exact jobFinish_sound sound study
  | deleteCheck userId study => exact deleteCheck_sound sound userId study
  | deletePop => exact deletePop_sound sound orderly
  | deleteRow => exact deleteRow_sound sound orderly

end

end Service

/-- The rows that an earlier process left, and the steps of this one. -/
structure Run where
  persist : Bool
  stored : List Record
  steps : Nat → Step

namespace Run

variable (run : Run)

/-- The service as it starts, with the studies an earlier process left marked
interrupted. -/
def start : Service where
  persist := run.persist
  studies := if run.persist then run.stored.map Study.ofRow else []

/-- The service before step `n`. -/
def serviceAt (n : Nat) : Service := Machine.stateAt Service.step run.start run.steps n

/-- No step is overtaken. -/
def Orderly : Prop := ∀ n, (run.serviceAt n).StepOrderly (run.steps n)

/-- The service keeps its promises at every moment. -/
def KeepsPromises : Prop := ∀ n, (run.serviceAt n).AsPromised

theorem start_sound : run.start.Sound := by
  have fromRow : ∀ study ∈ run.start.studies, ∃ row, study = Study.ofRow row := by
    intro study member
    simp only [start] at member
    split at member
    · obtain ⟨row, _, rfl⟩ := List.mem_map.mp member
      exact ⟨row, rfl⟩
    · simp at member
  refine ⟨?tidy, ?bounded, ⟨rfl, ?accepted⟩, by simp [start], by simp [start]⟩
  case tidy =>
    intro study member
    obtain ⟨row, rfl⟩ := fromRow study member
    exact Study.ofRow_tidy row
  case bounded =>
    refine (List.countP_eq_zero.mpr fun study member => ?_).trans_le (Nat.zero_le _)
    obtain ⟨row, rfl⟩ := fromRow study member
    have idle := (Study.ofRow_tidy row).status.idle (.inr (.inr (.inr rfl)))
    exact fun busy => idle (of_decide_eq_true busy)
  case accepted =>
    intro study member
    obtain ⟨row, rfl⟩ := fromRow study member
    simp [Study.ofRow]

/-- Two studies are submitted and run beside each other, and the first is
deleted. -/
def besideEachOther : Run where
  persist := true
  stored := [{ userId := "ada", name := "old", status := .running }]
  steps
    | 0 => .submitCount "ada" "first"
    | 1 => .submitKeep 0
    | 2 => .submitCount "ben" "second"
    | 3 => .submitSave 1 true
    | 4 => .submitStart 1
    | 5 => .submitKeep 0
    | 6 => .submitSave 2 true
    | 7 => .submitStart 2
    | 8 => .jobStart 1
    | 9 => .jobStart 2
    | 10 => .jobSettle 1 (.ok "result")
    | 11 => .deleteCheck "ada" 1
    | 12 => .jobKeep 1
    | 13 => .deletePop 0
    | 14 => .jobSave 1 true
    | 15 => .deleteRow 0 true
    | 16 => .jobSettle 2 (.error "no demand")
    | 17 => .jobKeep 2
    | 18 => .jobSave 2 true
    | 19 => .jobFinish 1
    | _ => .jobFinish 2

theorem besideEachOther_orderly : besideEachOther.Orderly := by
  intro n
  match n with
  | 0 | 2 | 3 | 6 | 8 | 9 | 10 | 11 | 12 | 14 | 16 | 17 | 18 | 19 => trivial
  | 1 | 5 =>
    change _ < _ → _ < maxActivePlanningJobs
    decide
  | 4 | 7 =>
    change _ → _ < maxActiveJobs
    decide
  | 13 | 15 =>
    change ∀ found ∈ _, _
    decide
  | n + 20 => trivial

/-- A run from an empty store through a list of steps, after which nothing more
happens. -/
def through (steps : List Step) : Run where
  persist := true
  stored := []
  steps n := steps.getD n (.submitSave 0 false)

/-- Three submissions count before any of them stores its record. -/
def countedTogether : Run := through [.submitCount "ada" "first", .submitCount "ben" "second",
      .submitCount "cem" "third", .submitKeep 0, .submitKeep 0, .submitKeep 0]

/-- Twice two studies are submitted and settle before their jobs have ended;
the registry has no room for the job of the next one. -/
def jobsLeftUnfinished : Run := through (([0, 1, 2, 3].flatMap fun study =>
    [.submitCount "ada" "study", .submitKeep 0, .submitSave study true,
      .submitStart study, .jobStart study, .jobSettle study (.ok "result")]) ++
    [.submitCount "ada" "refused", .submitKeep 0, .submitSave 4 true, .submitStart 4])

/-- A study is deleted between its worker's write of the outcome and the put
that follows it. -/
def deletedBeforePut : Run :=
  through [.submitCount "ada" "study", .submitKeep 0, .submitSave 0 true,
      .submitStart 0, .jobStart 0, .jobSettle 0 (.ok "result"),
      .deleteCheck "ada" 0, .deletePop 0, .deleteRow 0 true, .jobKeep 0]

end Run
end UrbanFlow.Planning
