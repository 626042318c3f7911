import UrbanFlow.Library.Machine
import UrbanFlow.Tenancy.Tally

/-!
# Every sequence of acquires and releases

Runs of a quota manager under any acquires and releases, while the clock goes
forward, also between the readings of one acquire. Users and tenants are two
tallies of the same granted runs, so a tenant's counters are the sums over its
users: of the runs in flight and of all runs as they are kept, of the runs of a
day as a reader of that day finds them.
-/

namespace UrbanFlow

open QuotaManager GrantedRun

/-- A call of a quota manager, or time going by. The delays of an acquire are
the times before its three clock readings. -/
inductive QuotaCall
  | acquire (tenant user : String) (userDelay tenantDelay retryDelay : Nat)
  | release (lease : Nat)
  | advance (delay : Nat)

namespace QuotaManager

/-- The users' counters tally the runs, by the days they were read on. -/
abbrev UserTally (settings : QuotaSettings) (manager : QuotaManager) (runs : List GrantedRun)
    (today : Int) : Prop :=
  Tally (fun key => (settings.policyFor key.1).dailyRunsPerUser)
    (fun key => (settings.policyFor key.1).concurrentRunsPerUser)
    userKey userDay manager.userCounters runs today

/-- The tenants' counters tally the runs, by the days they were read on. -/
abbrev TenantTally (settings : QuotaSettings) (manager : QuotaManager) (runs : List GrantedRun)
    (today : Int) : Prop :=
  Tally (fun tenant => (settings.policyFor tenant).dailyRunsPerTenant)
    (fun tenant => (settings.policyFor tenant).concurrentRunsPerTenant)
    tenant tenantDay manager.tenantCounters runs today

end QuotaManager

/-- A quota manager, its clock and the runs it has granted. -/
structure QuotaWorld where
  manager : QuotaManager := {}
  clock : Int
  runs : List GrantedRun := []

namespace QuotaWorld

/-- What an acquire answers, with the manager after it. -/
def acquired (settings : QuotaSettings) (tenant user : String)
    (userDelay tenantDelay retryDelay : Nat)
    (world : QuotaWorld) : QuotaManager × Except LimitExceeded RunLease :=
  world.manager.acquireRun settings tenant user (world.clock + userDelay)
    (world.clock + userDelay + tenantDelay)
    (world.clock + userDelay + tenantDelay + retryDelay)

def step (settings : QuotaSettings) (world : QuotaWorld) : QuotaCall → QuotaWorld
  | .acquire tenant user userDelay tenantDelay retryDelay =>
    let (manager, answer) := world.acquired settings tenant user userDelay tenantDelay retryDelay
    { manager := manager
      clock := world.clock + userDelay + tenantDelay + retryDelay
      runs := match answer with
        | .ok lease => world.runs ++ [
             { lease := lease
               userDay := dayOf (world.clock + userDelay)
               tenantDay := dayOf (world.clock + userDelay + tenantDelay) }]
        | .error _ => world.runs }
  | .release lease =>
    match world.runs[lease]? with
    | some run =>
      let (manager, released) := world.manager.release run.lease
      { world with
        manager := manager
        runs := world.runs.set lease { run with lease := released } }
    | none => world
  | .advance delay => { world with clock := world.clock + delay }

/-- The day of the clock. -/
def today (world : QuotaWorld) : Int := dayOf world.clock

/-- Both levels of counters tally the granted runs. -/
structure Sound (settings : QuotaSettings) (world : QuotaWorld) : Prop where
  users : world.manager.UserTally settings world.runs world.today
  tenants : world.manager.TenantTally settings world.runs world.today
  known : ∀ run ∈ world.runs, run.userKey ∈ world.manager.users

end QuotaWorld

namespace QuotaManager

variable {settings : QuotaSettings} {tenant user : String}
variable {userClock tenantClock retryClock : Int} {manager : QuotaManager}

/-- An acquire is refused once both counters are rolled over, or has room for
its run on both levels. -/
theorem acquireRun_cases :
    let policy := settings.policyFor tenant
    let rolled := (manager.rollUser tenant user userClock).rollTenant tenant tenantClock
    let acquired := manager.acquireRun settings tenant user userClock tenantClock retryClock
    (∃ refusal, acquired = (rolled, .error refusal)) ∨
      (acquired = (rolled.take tenant user, .ok ⟨tenant, user, false⟩) ∧
        (rolled.userCounters (tenant, user)).runsToday < policy.dailyRunsPerUser ∧
        (rolled.tenantCounters tenant).runsToday < policy.dailyRunsPerTenant ∧
        (rolled.userCounters (tenant, user)).activeRuns < policy.concurrentRunsPerUser ∧
        (rolled.tenantCounters tenant).activeRuns < policy.concurrentRunsPerTenant) := by
  dsimp only [acquireRun]
  split_ifs with userDaily tenantDaily userActive tenantActive
  · exact .inl ⟨_, rfl⟩
  · exact .inl ⟨_, rfl⟩
  · exact .inl ⟨_, rfl⟩
  · exact .inl ⟨_, rfl⟩
  · exact .inr ⟨rfl, not_le.mp userDaily, not_le.mp tenantDaily,
      not_le.mp userActive, not_le.mp tenantActive⟩

theorem mem_freeAt {Key : Type} [DecidableEq Key] {key other : Key} {counters : Dict Key Counters}
    (member : other ∈ counters) : other ∈ freeAt key counters := by
  unfold freeAt
  split
  · rw [Finmap.mem_insert]
    exact .inr member
  · exact member

end QuotaManager

namespace QuotaWorld

variable {settings : QuotaSettings} {world : QuotaWorld}

section

variable (sound : Sound settings world)

include sound

/-- Rolling over, on the days of two clock readings, keeps both tallies. -/
theorem rolled_sound (tenant user : String) (userDelay tenantDelay : Nat) :
    let manager := (world.manager.rollUser tenant user
      (world.clock + userDelay)).rollTenant tenant (world.clock + userDelay + tenantDelay)
    manager.UserTally settings world.runs (dayOf (world.clock + userDelay)) ∧
      manager.TenantTally settings world.runs (dayOf (world.clock + userDelay + tenantDelay)) ∧
      ∀ key, key ∈ world.manager.users ∨ key = (tenant, user) → key ∈ manager.users := by
  refine ⟨?_, ?_, ?_⟩
  · have goesOn : world.today ≤ dayOf (world.clock + userDelay) := dayOf_mono (by omega)
    simpa [UserTally] using sound.users.roll goesOn (tenant, user)
  · have goesOn : world.today ≤ dayOf (world.clock + userDelay + tenantDelay) :=
      dayOf_mono (by omega)
    simpa [TenantTally] using sound.tenants.roll goesOn tenant
  · intro key known
    dsimp only [rollTenant, rollUser]
    rw [Finmap.mem_insert]
    exact known.symm

/-- An acquire keeps both tallies. -/
theorem acquire_sound (tenant user : String) (userDelay tenantDelay retryDelay : Nat) :
    Sound settings (world.step settings
      (.acquire tenant user userDelay tenantDelay retryDelay)) := by
  obtain ⟨users, tenants, known⟩ := rolled_sound sound tenant user userDelay tenantDelay
  have userLater : dayOf (world.clock + userDelay) ≤
      dayOf (world.clock + userDelay + tenantDelay + retryDelay) :=
    dayOf_mono (by omega)
  have tenantLater : dayOf (world.clock + userDelay + tenantDelay) ≤
      dayOf (world.clock + userDelay + tenantDelay + retryDelay) :=
    dayOf_mono (by omega)
  have cases := @acquireRun_cases settings tenant user
    (world.clock + userDelay) (world.clock + userDelay + tenantDelay)
    (world.clock + userDelay + tenantDelay + retryDelay) world.manager
  dsimp only [step, acquired]
  rcases cases with ⟨refusal, isRefused⟩ | ⟨isGranted, room⟩
  · rw [isRefused]
    exact ⟨users.later userLater, tenants.later tenantLater,
      fun run member => known _ (.inl (sound.known run member))⟩
  · obtain ⟨userDaily, tenantDaily, userActive, tenantActive⟩ := room
    rw [isGranted]
    let granted : GrantedRun := ⟨⟨tenant, user, false⟩, dayOf (world.clock + userDelay),
        dayOf (world.clock + userDelay + tenantDelay)⟩
    refine ⟨?_, ?_, ?_⟩
    · have taken := users.take granted rfl rfl rfl
        (by simp [granted, userKey]) userDaily userActive
      simpa [granted, userKey, today, UserTally] using taken.later userLater
    · have taken := tenants.take granted rfl rfl rfl
        (by simp [granted, GrantedRun.tenant]) tenantDaily tenantActive
      simpa [granted, GrantedRun.tenant, today, TenantTally]
        using taken.later tenantLater
    · intro run member
      dsimp only [take]
      rw [Finmap.mem_insert]
      rcases List.mem_append.mp member with old | isNew
      · exact .inr (known _ (.inl (sound.known run old)))
      · rw [List.mem_singleton.mp isNew]
        exact .inl rfl

theorem release_sound (lease : Nat) : Sound settings (world.step settings (.release lease)) := by
  dsimp only [step]
  split
  · next run found =>
      obtain ⟨inRange, isRun⟩ := List.getElem?_eq_some_iff.mp found
      dsimp only [release]
      by_cases isReleased : run.lease.released
      · rw [if_pos isReleased]
        have unchanged : world.runs.set lease run = world.runs := by
          rw [← isRun]
          exact List.set_getElem_self inRange
        dsimp only
        rw [unchanged]
        exact sound
      · rw [if_neg isReleased]
        have isActive : run.Active := by simpa [Active] using isReleased
        have isSplit : world.runs =
            world.runs.take lease ++ run :: world.runs.drop (lease + 1) := by
          rw [← isRun, List.getElem_cons_drop, List.take_append_drop]
        have isSet : world.runs.set lease run.finish = world.runs.take lease ++ run.finish ::
              world.runs.drop (lease + 1) := List.set_eq_take_append_cons_drop ▸ if_pos inRange
        obtain ⟨users, tenants, known⟩ := sound
        dsimp only
        change Sound settings { world with
          manager := _, runs := world.runs.set lease run.finish }
        rw [isSplit] at users tenants
        refine ⟨?_, ?_, ?_⟩
        · have freed := users.free rfl rfl isActive
          dsimp only
          rw [isSet]
          unfold UserTally userCounters
          rw [freeAt_valueAt]
          exact freed
        · have freed := tenants.free rfl rfl isActive
          dsimp only
          rw [isSet]
          unfold TenantTally tenantCounters
          rw [freeAt_valueAt]
          exact freed
        · intro other member
          apply mem_freeAt
          rcases List.mem_or_eq_of_mem_set member with old | isFinished
          · exact known other old
          · rw [isFinished]
            exact known run (List.mem_of_getElem? found)
  · exact sound

theorem step_sound (call : QuotaCall) : Sound settings (world.step settings call) := by
  cases call with
  | acquire tenant user userDelay tenantDelay retryDelay =>
    exact acquire_sound sound tenant user userDelay tenantDelay retryDelay
  | release lease => exact release_sound sound lease
  | advance delay =>
    have goesOn : world.today ≤ dayOf (world.clock + delay) := dayOf_mono (by omega)
    exact ⟨sound.users.later goesOn, sound.tenants.later goesOn, sound.known⟩

/-- A refused acquire only rolls counters over, so no reader of its day or a
later one finds other numbers. -/
theorem refused_unchanged {tenant user : String} {userDelay tenantDelay retryDelay : Nat}
    {refusal : LimitExceeded}
    (refused : (world.acquired settings tenant user userDelay tenantDelay retryDelay).2 = .error refusal) :
    let after := world.step settings (.acquire tenant user userDelay tenantDelay retryDelay)
    after.runs = world.runs ∧ ∀ day, after.today ≤ day →
      (∀ key, (after.manager.userCounters key).runsOn day =
        (world.manager.userCounters key).runsOn day) ∧
      ∀ key, (after.manager.tenantCounters key).runsOn day =
        (world.manager.tenantCounters key).runsOn day := by
  intro after
  have sameRuns : after.runs = world.runs := by
    dsimp only [after, step]
    rw [refused]
  have soundAfter : Sound settings after :=
    step_sound sound (.acquire tenant user userDelay tenantDelay retryDelay)
  refine ⟨sameRuns, fun day ahead => ⟨fun key => ?_, fun key => ?_⟩⟩
  all_goals
    have goesOn : world.today ≤ day := by
      apply le_trans _ ahead
      apply dayOf_mono
      change world.clock ≤ world.clock + userDelay + tenantDelay + retryDelay
      omega
  · rw [soundAfter.users.current key day ahead, sound.users.current key day goesOn, sameRuns]
  · rw [soundAfter.tenants.current key day ahead, sound.tenants.current key day goesOn, sameRuns]

end

section Sums

variable (sound : Sound settings world) (tenant : String)
include sound

theorem activeRuns_sum : (world.manager.tenantCounters tenant).activeRuns =
      world.manager.sumOverUsers Counters.activeRuns tenant := by
  unfold sumOverUsers
  rw [sound.tenants.active, Dict.total_eq_countP sound.users.active sound.known]
  apply List.countP_congr
  intro run _
  rw [decide_eq_true_iff, decide_eq_true_iff]
  apply Iff.rfl

theorem runsTotal_sum : (world.manager.tenantCounters tenant).runsTotal =
      world.manager.sumOverUsers Counters.runsTotal tenant := by
  unfold sumOverUsers
  rw [sound.tenants.total, Dict.total_eq_countP sound.users.total sound.known]
  apply List.countP_congr
  intro run _
  rw [decide_eq_true_iff, decide_eq_true_iff]
  apply Iff.rfl

theorem runsOn_sum (sameDay : ∀ run ∈ world.runs, run.tenant = tenant →
      (run.userDay = world.today ↔ run.tenantDay = world.today)) :
    (world.manager.tenantCounters tenant).runsOn world.today =
      world.manager.sumOverUsers (Counters.runsOn world.today) tenant := by
  unfold sumOverUsers
  rw [sound.tenants.current tenant world.today le_rfl, Dict.total_eq_countP
    (fun key => sound.users.current key world.today le_rfl) sound.known]
  apply List.countP_congr
  intro run member
  have same := sameDay run member
  rw [decide_eq_true_iff, decide_eq_true_iff]
  exact and_congr_right fun isTenant => (same isTenant).symm

end Sums

end QuotaWorld

/-- A quota manager and the calls made of it. -/
structure QuotaRun where
  settings : QuotaSettings
  start : Int
  calls : Nat → QuotaCall

namespace QuotaRun

variable (run : QuotaRun)

section

variable (n : Nat)

/-- The world before call `n`. -/
def worldAt : QuotaWorld :=
  Machine.stateAt (QuotaWorld.step run.settings) { clock := run.start } run.calls n

/-- The counters of a user before call `n`. -/
def userAt (tenant user : String) : Counters := (run.worldAt n).manager.userCounters (tenant, user)

def tenantAt (tenant : String) : Counters := (run.worldAt n).manager.tenantCounters tenant

/-- Call `n` is an acquire that raises. -/
def RefusedAt : Prop := ∃ tenant user userDelay tenantDelay retryDelay refusal,
    run.calls n = .acquire tenant user userDelay tenantDelay retryDelay ∧
      ((run.worldAt n).acquired run.settings tenant user userDelay tenantDelay
        retryDelay).2 = .error refusal

end

/-- What holds of the counters before every call. The daily counts of the users
and of a tenant are compared as a reader of the day finds them. -/
structure Accounted : Prop where
  userLeases : ∀ n tenant user, (run.userAt n tenant user).activeRuns =
    (run.worldAt n).runs.countP fun granted => granted.userKey = (tenant, user) ∧ granted.Active
  tenantLeases : ∀ n tenant, (run.tenantAt n tenant).activeRuns =
    (run.worldAt n).runs.countP fun granted => granted.tenant = tenant ∧ granted.Active
  userConcurrent : ∀ n tenant user, (run.userAt n tenant user).activeRuns ≤
    max 0 (run.settings.policyFor tenant).concurrentRunsPerUser
  tenantConcurrent : ∀ n tenant, (run.tenantAt n tenant).activeRuns ≤
    max 0 (run.settings.policyFor tenant).concurrentRunsPerTenant
  userDaily : ∀ n tenant user, (run.userAt n tenant user).runsToday ≤
    max 0 (run.settings.policyFor tenant).dailyRunsPerUser
  tenantDaily : ∀ n tenant, (run.tenantAt n tenant).runsToday ≤
    max 0 (run.settings.policyFor tenant).dailyRunsPerTenant
  userDays : ∀ n tenant user day, ((run.worldAt n).runs.countP fun granted =>
        granted.userKey = (tenant, user) ∧ granted.userDay = day) ≤
      max 0 (run.settings.policyFor tenant).dailyRunsPerUser
  tenantDays : ∀ n tenant day, ((run.worldAt n).runs.countP fun granted =>
        granted.tenant = tenant ∧ granted.tenantDay = day) ≤
      max 0 (run.settings.policyFor tenant).dailyRunsPerTenant
  activeSum : ∀ n tenant, (run.tenantAt n tenant).activeRuns =
    (run.worldAt n).manager.sumOverUsers Counters.activeRuns tenant
  totalSum : ∀ n tenant, (run.tenantAt n tenant).runsTotal =
    (run.worldAt n).manager.sumOverUsers Counters.runsTotal tenant
  dailySum : ∀ n tenant, (∀ granted ∈ (run.worldAt n).runs, granted.tenant = tenant →
      (granted.userDay = (run.worldAt n).today ↔ granted.tenantDay = (run.worldAt n).today)) →
      (run.tenantAt n tenant).runsOn (run.worldAt n).today =
        (run.worldAt n).manager.sumOverUsers (Counters.runsOn (run.worldAt n).today) tenant
  refused : ∀ n, run.RefusedAt n → (∀ tenant user, (run.userAt (n + 1) tenant user).activeRuns =
          (run.userAt n tenant user).activeRuns ∧
        (run.userAt (n + 1) tenant user).runsOn (run.worldAt (n + 1)).today =
          (run.userAt n tenant user).runsOn (run.worldAt (n + 1)).today) ∧
    ∀ tenant, (run.tenantAt (n + 1) tenant).activeRuns = (run.tenantAt n tenant).activeRuns ∧
        (run.tenantAt (n + 1) tenant).runsOn (run.worldAt (n + 1)).today =
          (run.tenantAt n tenant).runsOn (run.worldAt (n + 1)).today

theorem sound (n : Nat) : QuotaWorld.Sound run.settings (run.worldAt n) := by
  apply Machine.invariant (QuotaWorld.Sound run.settings)
  · refine ⟨?_, ?_, nofun⟩
    · exact Tally.empty
    · exact Tally.empty
  · intro world call isSound
    exact QuotaWorld.step_sound isSound call

theorem refused_unchanged {n : Nat} (refused : run.RefusedAt n) :
    (run.worldAt (n + 1)).runs = (run.worldAt n).runs ∧ (∀ key,
        ((run.worldAt (n + 1)).manager.userCounters key).runsOn (run.worldAt (n + 1)).today =
          ((run.worldAt n).manager.userCounters key).runsOn (run.worldAt (n + 1)).today) ∧
      ∀ key, ((run.worldAt (n + 1)).manager.tenantCounters key).runsOn (run.worldAt (n + 1)).today =
          ((run.worldAt n).manager.tenantCounters key).runsOn (run.worldAt (n + 1)).today := by
  obtain ⟨tenant, user, userDelay, tenantDelay, retryDelay, refusal, isAcquire,
    isRefused⟩ := refused
  have stepped : run.worldAt (n + 1) = (run.worldAt n).step run.settings
      (.acquire tenant user userDelay tenantDelay retryDelay) := by
    rw [← isAcquire]
    exact Machine.stateAt_succ _ _ _ n
  have unchanged := QuotaWorld.refused_unchanged (run.sound n) isRefused
  rw [stepped]
  exact ⟨unchanged.1, unchanged.2 _ le_rfl⟩

/-- Every run of a quota manager keeps its accounts. -/
theorem keepsAccounts : run.Accounted where
  userLeases n tenant user := (run.sound n).users.active (tenant, user)
  tenantLeases n tenant := (run.sound n).tenants.active tenant
  userConcurrent n tenant user := (run.sound n).users.activeLimit (tenant, user)
  tenantConcurrent n tenant := (run.sound n).tenants.activeLimit tenant
  userDaily n tenant user := (run.sound n).users.todayLimit (tenant, user)
  tenantDaily n tenant := (run.sound n).tenants.todayLimit tenant
  userDays n tenant user := (run.sound n).users.dailyLimit (tenant, user)
  tenantDays n tenant := (run.sound n).tenants.dailyLimit tenant
  activeSum n tenant := QuotaWorld.activeRuns_sum (run.sound n) tenant
  totalSum n tenant := QuotaWorld.runsTotal_sum (run.sound n) tenant
  dailySum n tenant sameDay := QuotaWorld.runsOn_sum (run.sound n) tenant sameDay
  refused n isRefused := by
    obtain ⟨sameRuns, users, tenants⟩ := run.refused_unchanged isRefused
    refine ⟨fun tenant user => ⟨?_, users (tenant, user)⟩, fun tenant => ⟨?_, tenants tenant⟩⟩
    · unfold userAt
      rw [(run.sound (n + 1)).users.active, (run.sound n).users.active, sameRuns]
    · unfold tenantAt
      rw [(run.sound (n + 1)).tenants.active, (run.sound n).tenants.active, sameRuns]

/-- Two users of a tenant, one run at a time each: one user's run goes on over
midnight, then the other starts one and the first asks for another. -/
def overMidnight : QuotaRun where
  settings := { policy := { concurrentRunsPerUser := 1 } }
  start := 0
  calls
    | 0 => .acquire "city" "ada" 0 0 0
    | 1 => .advance 86400000000
    | 2 => .acquire "city" "ben" 0 0 0
    | _ => .acquire "city" "ada" 0 0 0

/-- As they are kept, the counters of a day do not add up once the tenant's has
rolled over, and a refused acquire resets one. -/
theorem overMidnight_notAsKept : (overMidnight.tenantAt 3 "city").runsToday = 1 ∧
      (overMidnight.worldAt 3).manager.sumOverUsers Counters.runsToday "city" = 2 ∧
      ((overMidnight.worldAt 3).acquired overMidnight.settings "city" "ada" 0 0
        0).2 = .error ⟨"concurrent_quota_exceeded",
          "Too many runs in progress for this user", 1, 10⟩ ∧
      (overMidnight.userAt 3 "city" "ada").runsToday = 1 ∧
      (overMidnight.userAt 4 "city" "ada").runsToday = 0 := by
  decide

end QuotaRun
end UrbanFlow
