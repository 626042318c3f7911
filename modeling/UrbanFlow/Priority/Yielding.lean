import Mathlib.Data.Finset.Insert
import Mathlib.Algebra.Order.Ring.Rat

/-!
# Clearing the way of emergency vehicles

A vehicle ahead of an emergency vehicle on its lane drives by other factors and a
higher desired speed while it is within the distance. Its own values wait in a
table under its id, and are what it drives by at every other time.
-/

namespace UrbanFlow

structure YieldConfig where
  enabled : Bool := true
  distanceM : ℚ := 120
  headwayFactor : ℚ := 6 / 10
  accelerationFactor : ℚ := 13 / 10
  speedFloorFactor : ℚ := 1

structure DriverFactors where
  headway : ℚ
  acceleration : ℚ
  deceleration : ℚ
  deriving DecidableEq

/-- What clearing changes of a vehicle, and what `_saved` keeps of it. -/
structure DrivingValues where
  driverFactors : Option DriverFactors
  desiredSpeed : ℚ
  deriving DecidableEq

/-- The values that a vehicle drives by, and the factors that the model in its
`_driver_idm` is scaled by. -/
structure DriverState extends DrivingValues where
  driverIdm : Option DriverFactors

/-- `Vehicle.driver_idm`: a model is scaled by the vehicle's factors once. -/
def DriverState.scaleIdm (driver : DriverState) : DriverState :=
  match driver.driverFactors, driver.driverIdm with
  | some factors, none => { driver with driverIdm := some factors }
  | _, _ => driver

/-- A vehicle that is registered on an emergency vehicle's lane. -/
structure LaneMate where
  vehicleId : String
  position : ℚ
  priority : Bool := false

/-- What `update` reads of an emergency vehicle; a vehicle is known by its id. -/
structure EmergencyOnLane where
  vehicleId : String
  position : ℚ
  lane : Option (List LaneMate)

/-- A `YieldManager` and the vehicles around it. -/
structure YieldManager where
  saved : List (String × DrivingValues) := []
  yieldedIds : Finset String := ∅
  drivers : String → DriverState

namespace YieldManager

/-- The ids of the vehicles whose own values are saved. -/
def savedIds (manager : YieldManager) : List String := manager.saved.map Prod.fst

/-- A vehicle is ahead of an emergency vehicle, within the distance. -/
def IsAhead (config : YieldConfig) (emergency : EmergencyOnLane) (other : LaneMate) : Prop :=
  ¬ (other.vehicleId = emergency.vehicleId ∨ other.priority = true) ∧
    0 < other.position - emergency.position ∧
    other.position - emergency.position ≤ config.distanceM

instance (config : YieldConfig) (emergency : EmergencyOnLane) :
    DecidablePred (IsAhead config emergency) :=
  fun _ => inferInstanceAs (Decidable (_ ∧ _ ∧ _))

/-- The keys of `ahead`. -/
def ahead (config : YieldConfig) (emergencies : List EmergencyOnLane) : List String :=
  (emergencies.flatMap fun emergency =>
    match emergency.lane with
    | none => []
    | some others =>
      (others.filter fun other => IsAhead config emergency other).map LaneMate.vehicleId).dedup

section

variable (config : YieldConfig) (speedLimit : ℚ)

/-- The values of a vehicle that clears the way. -/
def clearing (own : DrivingValues) : DrivingValues :=
  let factors := own.driverFactors.getD ⟨1, 1, 1⟩
  { driverFactors := some
        { headway := factors.headway * config.headwayFactor
          acceleration := factors.acceleration * config.accelerationFactor
          deceleration := factors.deceleration }
    desiredSpeed := max own.desiredSpeed (speedLimit * config.speedFloorFactor) }

section

variable (vehicleId : String) (manager : YieldManager)

def apply : YieldManager :=
  let own := (manager.drivers vehicleId).toDrivingValues
  { saved := manager.saved ++ [(vehicleId, own)]
    yieldedIds := insert vehicleId manager.yieldedIds
    drivers := Function.update manager.drivers vehicleId ⟨clearing config speedLimit own, none⟩ }

def restore : YieldManager := match manager.saved.lookup vehicleId with
  | none => manager
  | some own =>
    { manager with
      saved := manager.saved.filter fun entry => entry.1 ≠ vehicleId
      drivers := Function.update manager.drivers vehicleId ⟨own, none⟩ }

end

section

variable (vehicleIds : List String) (manager : YieldManager)

/-- Several vehicles restored, one after another. -/
def restoreEach : YieldManager :=
  vehicleIds.foldl (fun manager vehicleId => manager.restore vehicleId) manager

/-- The vehicles ahead that have not been cleared yet are. -/
def applyEach : YieldManager := vehicleIds.foldl (fun manager vehicleId =>
    if vehicleId ∉ manager.savedIds then manager.apply config speedLimit vehicleId
    else manager) manager

end

def update (emergencies : List EmergencyOnLane) (manager : YieldManager) : YieldManager :=
  if ¬ config.enabled then manager
  else
    let ahead := ahead config emergencies
    (manager.restoreEach (manager.savedIds.filter fun vehicleId => vehicleId ∉ ahead)).applyEach
        config speedLimit ahead

end

def restoreAll (manager : YieldManager) : YieldManager := manager.restoreEach manager.savedIds

def reset (manager : YieldManager) : YieldManager := { manager.restoreAll with yieldedIds := ∅ }

/-- A vehicle's model is asked for. -/
def drive (vehicleId : String) (manager : YieldManager) : YieldManager :=
  { manager with
    drivers := Function.update manager.drivers vehicleId (manager.drivers vehicleId).scaleIdm }

/-- What is called of a manager or of a vehicle. -/
inductive Call
  | update (emergencies : List EmergencyOnLane)
  | restoreAll
  | reset
  | drive (vehicleId : String)

section

variable (config : YieldConfig) (speedLimit : ℚ)

def step (manager : YieldManager) : Call → YieldManager
  | .update emergencies => manager.update config speedLimit emergencies
  | .restoreAll => manager.restoreAll
  | .reset => manager.reset
  | .drive vehicleId => manager.drive vehicleId

@[simp] theorem step_update (emergencies : List EmergencyOnLane) (manager : YieldManager) :
    manager.step config speedLimit (.update emergencies) =
      manager.update config speedLimit emergencies := rfl

section

variable (drivers : String → DriverState) (calls : List Call)

/-- A new manager, after some calls. -/
def run : YieldManager := calls.foldl (step config speedLimit) { drivers := drivers }

theorem run_append_singleton (call : Call) : run config speedLimit drivers (calls ++ [call]) =
      (run config speedLimit drivers calls).step config speedLimit call := by
  simp [run]

end

end

def WithinRange (config : YieldConfig) (emergencies : List EmergencyOnLane)
    (vehicleId : String) : Prop :=
  ∃ emergency ∈ emergencies, ∃ others, emergency.lane = some others ∧
    ∃ other ∈ others, IsAhead config emergency other ∧ other.vehicleId = vehicleId

theorem mem_ahead {config : YieldConfig} {emergencies : List EmergencyOnLane} {vehicleId : String} :
    vehicleId ∈ ahead config emergencies ↔ WithinRange config emergencies vehicleId := by
  unfold ahead WithinRange
  rw [List.mem_dedup, List.mem_flatMap]
  apply exists_congr
  intro emergency
  apply and_congr_right
  intro _
  cases emergency.lane with
  | none => simp
  | some => simp [and_assoc]

/-- Each vehicle drives by its own values, or by those for clearing, once, while
its own are saved. -/
structure Sound (config : YieldConfig) (speedLimit : ℚ) (own : String → DrivingValues)
    (manager : YieldManager) : Prop where
  saved : ∀ entry ∈ manager.saved, entry.2 = own entry.1
  driving : ∀ vehicleId, (manager.drivers vehicleId).toDrivingValues =
    if vehicleId ∈ manager.savedIds then clearing config speedLimit (own vehicleId)
    else own vehicleId

section

variable {config : YieldConfig} {speedLimit : ℚ} {own : String → DrivingValues}
  {manager : YieldManager}

theorem lookup_eq_none {vehicleId : String} :
    manager.saved.lookup vehicleId = none ↔ vehicleId ∉ manager.savedIds := by
  rw [List.lookup_eq_none_iff]
  unfold savedIds
  rw [List.mem_map]
  constructor
  · rintro areOther ⟨entry, isMem, rfl⟩
    simpa using areOther entry isMem
  · intro notSaved entry isMem
    rw [bne_iff_ne]
    rintro rfl
    exact notSaved ⟨entry, isMem, rfl⟩

theorem mem_of_lookup {vehicleId : String} {values : DrivingValues}
    (isSaved : manager.saved.lookup vehicleId = some values) :
    (vehicleId, values) ∈ manager.saved := by
  obtain ⟨_, _, isSplit, -⟩ := List.lookup_eq_some_iff.mp isSaved
  simp [isSplit]

theorem mem_savedIds_restore {vehicleId other : String} :
    other ∈ (manager.restore vehicleId).savedIds ↔
      other ∈ manager.savedIds ∧ other ≠ vehicleId := by
  unfold restore
  cases isSaved : manager.saved.lookup vehicleId with
  | none =>
    have notSaved := lookup_eq_none.mp isSaved
    exact ⟨fun isMem => ⟨isMem, fun same => notSaved (same ▸ isMem)⟩, fun isMem => isMem.1⟩
  | some => simp [savedIds]

/-- A vehicle that clears the way is among the saved ones. -/
theorem mem_savedIds_apply {vehicleId other : String} :
    other ∈ (manager.apply config speedLimit vehicleId).savedIds ↔
      other ∈ manager.savedIds ∨ other = vehicleId := by
  simp [apply, savedIds]

section

variable (sound : manager.Sound config speedLimit own)

include sound

theorem Sound.restore (vehicleId : String) :
    (manager.restore vehicleId).Sound config speedLimit own where
  saved := by
    intro entry isMem
    unfold YieldManager.restore at isMem
    split at isMem
    · exact sound.saved entry isMem
    · exact sound.saved entry (List.mem_of_mem_filter isMem)
  driving := by
    intro other
    simp only [mem_savedIds_restore]
    unfold YieldManager.restore
    cases isSaved : manager.saved.lookup vehicleId with
    | none =>
      have notSaved := lookup_eq_none.mp isSaved
      by_cases same : other = vehicleId
      · subst same
        simp [sound.driving other, notSaved]
      · simp [sound.driving other, same]
    | some values =>
      have isOwn : values = own vehicleId := sound.saved _ (mem_of_lookup isSaved)
      by_cases same : other = vehicleId
      · subst same
        simp [isOwn]
      · simp [sound.driving other, same]

/-- A vehicle that drives by its own values clears the way by those. -/
theorem Sound.apply {vehicleId : String}
    (notSaved : vehicleId ∉ manager.savedIds) :
    (manager.apply config speedLimit vehicleId).Sound config speedLimit own where
  saved := by
    intro entry isMem
    have isOwn := sound.driving vehicleId
    rw [if_neg notSaved] at isOwn
    obtain isEarlier | isNew := List.mem_append.mp isMem
    · exact sound.saved entry isEarlier
    · rw [List.mem_singleton.mp isNew]
      exact isOwn
  driving := by
    intro other
    have isOwn := sound.driving vehicleId
    rw [if_neg notSaved] at isOwn
    simp only [mem_savedIds_apply]
    by_cases same : other = vehicleId
    · subst same
      simp [YieldManager.apply, isOwn]
    · simp [YieldManager.apply, sound.driving other, same]

theorem Sound.restoreEach
    (vehicleIds : List String) : (manager.restoreEach vehicleIds).Sound config speedLimit own ∧
      ∀ other, other ∈ (manager.restoreEach vehicleIds).savedIds ↔
        other ∈ manager.savedIds ∧ other ∉ vehicleIds := by
  induction vehicleIds generalizing manager with
  | nil => exact ⟨sound, fun other => by simp [YieldManager.restoreEach]⟩
  | cons first _ ih =>
    obtain ⟨isSound, areSaved⟩ := ih (sound.restore first)
    refine ⟨isSound, fun other => (areSaved other).trans ?_⟩
    rw [mem_savedIds_restore, List.mem_cons, not_or, and_assoc]

theorem Sound.applyEach (vehicleIds : List String) :
    (manager.applyEach config speedLimit vehicleIds).Sound config speedLimit own ∧ ∀ other,
        other ∈ (manager.applyEach config speedLimit vehicleIds).savedIds ↔
          other ∈ manager.savedIds ∨ other ∈ vehicleIds := by
  induction vehicleIds generalizing manager with
  | nil => exact ⟨sound, fun other => by simp [YieldManager.applyEach]⟩
  | cons first _ ih =>
    unfold YieldManager.applyEach
    rw [List.foldl_cons]
    by_cases isSaved : first ∈ manager.savedIds
    · rw [if_neg (not_not.mpr isSaved)]
      obtain ⟨isSound, areSaved⟩ := ih sound
      refine ⟨isSound, fun other => (areSaved other).trans ?_⟩
      rw [List.mem_cons]
      refine ⟨fun isMem => isMem.imp_right Or.inr, ?_⟩
      rintro (isEarlier | rfl | isLater)
      · exact Or.inl isEarlier
      · exact Or.inl isSaved
      · exact Or.inr isLater
    · rw [if_pos isSaved]
      obtain ⟨isSound, areSaved⟩ := ih (sound.apply isSaved)
      refine ⟨isSound, fun other => (areSaved other).trans ?_⟩
      rw [mem_savedIds_apply, List.mem_cons, or_assoc]

theorem Sound.update
    (isEnabled : config.enabled = true) (emergencies : List EmergencyOnLane) :
    (manager.update config speedLimit emergencies).Sound config speedLimit own ∧ ∀ vehicleId,
        vehicleId ∈ (manager.update config speedLimit emergencies).savedIds ↔
          WithinRange config emergencies vehicleId := by
  unfold YieldManager.update
  rw [if_neg (not_not.mpr isEnabled)]
  obtain ⟨isRestored, areKept⟩ := sound.restoreEach
    (manager.savedIds.filter fun vehicleId => vehicleId ∉ ahead config emergencies)
  obtain ⟨isSound, areSaved⟩ := isRestored.applyEach (ahead config emergencies)
  refine ⟨isSound, fun vehicleId => ?_⟩
  rw [areSaved, areKept, ← mem_ahead]
  by_cases isAhead : vehicleId ∈ ahead config emergencies
  · simp [isAhead]
  · simp [isAhead]

theorem Sound.restoreAll :
    manager.restoreAll.Sound config speedLimit own ∧
      ∀ vehicleId, vehicleId ∉ manager.restoreAll.savedIds := by
  obtain ⟨isSound, areSaved⟩ := sound.restoreEach manager.savedIds
  exact ⟨isSound, fun vehicleId isMem =>
    ((areSaved vehicleId).mp isMem).2 ((areSaved vehicleId).mp isMem).1⟩

end

theorem update_disabled (isDisabled : ¬ config.enabled = true) (speedLimit : ℚ)
    (emergencies : List EmergencyOnLane) (manager : YieldManager) :
    manager.update config speedLimit emergencies = manager := by
  unfold update
  rw [if_pos isDisabled]

@[simp] theorem scaleIdm_toDrivingValues (driver : DriverState) :
    driver.scaleIdm.toDrivingValues = driver.toDrivingValues := by
  unfold DriverState.scaleIdm
  split <;> rfl

theorem Sound.step (sound : manager.Sound config speedLimit own) (call : Call) :
    (manager.step config speedLimit call).Sound config speedLimit own := by
  cases call with
  | update emergencies =>
    by_cases isEnabled : config.enabled = true
    · exact (sound.update isEnabled emergencies).1
    · rwa [step_update, update_disabled isEnabled]
  | restoreAll => exact sound.restoreAll.1
  | reset => exact ⟨sound.restoreAll.1.saved, sound.restoreAll.1.driving⟩
  | drive vehicleId =>
    refine ⟨sound.saved, fun other => (Eq.trans ?_ (sound.driving other))⟩
    by_cases same : other = vehicleId
    · subst same
      simp [YieldManager.step, YieldManager.drive]
    · simp [YieldManager.step, YieldManager.drive, same]

end

theorem run_sound (config : YieldConfig) (speedLimit : ℚ) (drivers : String → DriverState)
    (calls : List Call) : (run config speedLimit drivers calls).Sound config speedLimit
      fun vehicleId => (drivers vehicleId).toDrivingValues := by
  induction calls using List.reverseRecOn with
  | nil => exact ⟨by simp [run], by simp [run, savedIds]⟩
  | append_singleton _ call ih =>
    rw [run_append_singleton]
    exact ih.step call

/-- A manager that is not enabled saves nothing. -/
theorem run_disabled {config : YieldConfig} (isDisabled : ¬ config.enabled = true)
    (speedLimit : ℚ) (drivers : String → DriverState) (calls : List Call) :
    (run config speedLimit drivers calls).saved = [] := by
  induction calls using List.reverseRecOn with
  | nil => rfl
  | append_singleton _ call ih =>
    rw [run_append_singleton]
    cases call with
    | update =>
      rw [step_update, update_disabled isDisabled]
      exact ih
    | restoreAll => simp [step, restoreAll, restoreEach, savedIds, ih]
    | reset => simp [step, reset, restoreAll, restoreEach, savedIds, ih]
    | drive => exact ih

/-- At every time a vehicle drives by its own values or, once over, by those for
clearing; after an update by the former unless it is within range of an emergency
vehicle, and after `restore_all` and `reset` always. -/
theorem yields_once_and_returns (config : YieldConfig) (speedLimit : ℚ)
    (drivers : String → DriverState) (calls : List Call) (vehicleId : String) :
    let own := (drivers vehicleId).toDrivingValues
    let drivingAfter := fun calls =>
      ((run config speedLimit drivers calls).drivers vehicleId).toDrivingValues
    (drivingAfter calls = own ∨ drivingAfter calls = clearing config speedLimit own) ∧
      (∀ emergencies, ¬ WithinRange config emergencies vehicleId →
        drivingAfter (calls ++ [.update emergencies]) = own) ∧
      (∀ emergencies, config.enabled = true → WithinRange config emergencies vehicleId →
          drivingAfter (calls ++ [.update emergencies]) = clearing config speedLimit own) ∧
      drivingAfter (calls ++ [.restoreAll]) = own ∧
      drivingAfter (calls ++ [.reset]) = own := by
  have sound := run_sound config speedLimit drivers
  have after := run_append_singleton config speedLimit drivers calls
  refine ⟨?_, fun emergencies notWithin => ?_, fun emergencies isEnabled isWithin => ?_, ?_, ?_⟩
  · have isDriving := (sound calls).driving vehicleId
    split at isDriving
    · exact Or.inr isDriving
    · exact Or.inl isDriving
  · have isDriving := (sound (calls ++ [.update emergencies])).driving vehicleId
    rw [if_neg] at isDriving
    · exact isDriving
    · by_cases isEnabled : config.enabled = true
      · rw [after]
        exact fun isMem => notWithin
          (((sound calls).update isEnabled emergencies).2 vehicleId |>.mp isMem)
      · simp [savedIds, run_disabled isEnabled]
  · have isDriving := (sound (calls ++ [.update emergencies])).driving vehicleId
    rw [if_pos] at isDriving
    · exact isDriving
    · rw [after]
      exact ((sound calls).update isEnabled emergencies).2 vehicleId |>.mpr isWithin
  · have isDriving := (sound (calls ++ [.restoreAll])).driving vehicleId
    rwa [if_neg (after .restoreAll ▸ (sound calls).restoreAll.2 vehicleId)] at isDriving
  · have isDriving := (sound (calls ++ [.reset])).driving vehicleId
    rwa [if_neg (after .reset ▸ (sound calls).restoreAll.2 vehicleId)] at isDriving

end YieldManager
end UrbanFlow
