import Mathlib
import UrbanFlow.Library.Dict

/-!
# Run quotas

Runs per UTC day and runs in flight, per user and per tenant. The counters of a
user and of its tenant roll over to a new day separately, each when it is next
read. Clock readings are whole microseconds since the epoch.
-/

namespace UrbanFlow

structure QuotaPolicy where
  dailyRunsPerUser : Int := 50
  dailyRunsPerTenant : Int := 500
  concurrentRunsPerUser : Int := 2
  concurrentRunsPerTenant : Int := 10
  deriving DecidableEq, Repr

/-- `_Counters`, without the counters of requests. -/
structure Counters where
  day : Option Int := none
  runsToday : Nat := 0
  runsTotal : Nat := 0
  activeRuns : Nat := 0
  deriving DecidableEq, Repr

structure RunLease where
  tenant : String
  user : String
  released : Bool := false
  deriving DecidableEq, Repr

/-- `LimitExceededError`. -/
structure LimitExceeded where
  code : String
  message : String
  limit : Int
  retryAfterSeconds : Int
  deriving DecidableEq, Repr

/-- What a `QuotaManager` is constructed with. -/
structure QuotaSettings where
  policy : QuotaPolicy := {}
  tenantOverrides : Dict String QuotaPolicy := ∅

/-- The counters of a `QuotaManager`. -/
structure QuotaManager where
  users : Dict (String × String) Counters := ∅
  tenants : Dict String Counters := ∅

/-- `_day_of`, by the number of days since the epoch. -/
def dayOf (clock : Int) : Int := clock / 86400000000

def secondsToUtcMidnight (clock : Int) : Int := 86400 - clock % 86400000000 / 1000000

def concurrentRetryHintSeconds : Int := 10

theorem dayOf_mono : Monotone dayOf := fun _ _ later => Int.ediv_le_ediv (by decide) later

/-- `LimitExceededError.__init__`. -/
def LimitExceeded.make (code message : String) (limit retryAfterSeconds : Int) : LimitExceeded where
  code := code
  message := message
  limit := limit
  retryAfterSeconds := max 1 retryAfterSeconds

def QuotaSettings.policyFor (settings : QuotaSettings) (tenant : String) : QuotaPolicy :=
  settings.tenantOverrides.valueAt settings.policy tenant

namespace Counters

def roll (day : Int) (counters : Counters) : Counters := if counters.day ≠ some day then
    { counters with day := some day, runsToday := 0 }
  else counters

/-- The counters with one more run. -/
def take (counters : Counters) : Counters :=
  { counters with
    runsToday := counters.runsToday + 1
    runsTotal := counters.runsTotal + 1
    activeRuns := counters.activeRuns + 1 }

/-- The counters when a run ends. -/
def free (counters : Counters) : Counters := if 0 < counters.activeRuns then
    { counters with activeRuns := counters.activeRuns - 1 }
  else counters

section

variable (day : Int) (counters : Counters)

/-- The runs of a day, as every reader finds them: rolled over to it. -/
def runsOn : Nat := (counters.roll day).runsToday

@[simp] theorem roll_activeRuns : (counters.roll day).activeRuns = counters.activeRuns := by
  unfold roll
  split <;> simp

@[simp] theorem roll_runsTotal : (counters.roll day).runsTotal = counters.runsTotal := by
  unfold roll
  split <;> simp

@[simp] theorem roll_day : (counters.roll day).day = some day := by
  unfold roll
  split
  · simp
  · next isDay => simpa using isDay

theorem roll_runsToday_le : (counters.roll day).runsToday ≤ counters.runsToday := by
  unfold roll
  split <;> simp

theorem runsOn_eq : counters.runsOn day =
      if counters.day = some day then counters.runsToday else 0 := by
  unfold runsOn roll
  by_cases isDay : counters.day = some day
  · simp [isDay]
  · simp [isDay]

theorem runsOn_roll_self : (counters.roll day).runsOn day = counters.runsOn day := by
  rw [runsOn_eq, roll_day, if_pos rfl]
  simp [runsOn]

end

theorem runsOn_roll_of_ne {day other : Int} (different : other ≠ day) (counters : Counters) :
    (counters.roll day).runsOn other = 0 := by
  rw [runsOn_eq, roll_day, if_neg]
  simpa using different.symm

section

variable (counters : Counters)

@[simp] theorem free_activeRuns : counters.free.activeRuns = counters.activeRuns - 1 := by
  unfold free
  split
  · simp
  · omega

@[simp] theorem free_runsTotal : counters.free.runsTotal = counters.runsTotal := by
  unfold free
  split <;> simp

@[simp] theorem free_runsToday : counters.free.runsToday = counters.runsToday := by
  unfold free
  split <;> simp

end

@[simp] theorem runsOn_free (day : Int) (counters : Counters) :
    counters.free.runsOn day = counters.runsOn day := by
  have sameDay : counters.free.day = counters.day := by
    unfold free
    split <;> simp
  rw [runsOn_eq, runsOn_eq, sameDay, free_runsToday]

end Counters

namespace QuotaManager

/-- The counters of a user; none have been kept for a new one. -/
def userCounters (manager : QuotaManager) : String × String → Counters := manager.users.valueAt {}

def tenantCounters (manager : QuotaManager) : String → Counters := manager.tenants.valueAt {}

/-- `_counters` of a user, rolled over to the day of its clock reading. -/
def rollUser (tenant user : String) (clock : Int) (manager : QuotaManager) : QuotaManager :=
  { manager with
    users := manager.users.insert (tenant, user)
      ((manager.userCounters (tenant, user)).roll (dayOf clock)) }

/-- `_counters` of a tenant. -/
def rollTenant (tenant : String) (clock : Int) (manager : QuotaManager) : QuotaManager :=
  { manager with
    tenants := manager.tenants.insert tenant ((manager.tenantCounters tenant).roll (dayOf clock)) }

/-- Both levels of counters with one more run. -/
def take (tenant user : String) (manager : QuotaManager) : QuotaManager where
  users := manager.users.insert (tenant, user) (manager.userCounters (tenant, user)).take
  tenants := manager.tenants.insert tenant (manager.tenantCounters tenant).take

/-- `acquire_run`: the manager after it, and the lease or the error raised. The
clock is read for the user's counters, for the tenant's and for the error. -/
def acquireRun (settings : QuotaSettings) (tenant user : String)
    (userClock tenantClock retryClock : Int) (manager : QuotaManager) :
    QuotaManager × Except LimitExceeded RunLease :=
  let policy := settings.policyFor tenant
  let rolled := (manager.rollUser tenant user userClock).rollTenant tenant tenantClock
  let userCounters := rolled.userCounters (tenant, user)
  let tenantCounters := rolled.tenantCounters tenant
  let reset := secondsToUtcMidnight retryClock
  let hint := concurrentRetryHintSeconds
  if policy.dailyRunsPerUser ≤ userCounters.runsToday then
    (rolled, .error (.make "daily_quota_exceeded" "Daily run quota for this user is used up"
      policy.dailyRunsPerUser reset))
  else if policy.dailyRunsPerTenant ≤ tenantCounters.runsToday then
    (rolled, .error (.make "tenant_daily_quota_exceeded"
      "Daily run quota for this tenant is used up"
      policy.dailyRunsPerTenant reset))
  else if policy.concurrentRunsPerUser ≤ userCounters.activeRuns then
    (rolled, .error (.make "concurrent_quota_exceeded" "Too many runs in progress for this user"
      policy.concurrentRunsPerUser hint))
  else if policy.concurrentRunsPerTenant ≤ tenantCounters.activeRuns then
    (rolled, .error (.make "tenant_concurrent_quota_exceeded"
      "Too many runs in progress for this tenant"
      policy.concurrentRunsPerTenant hint))
  else (rolled.take tenant user, .ok { tenant := tenant, user := user })

/-- Counters, where they are kept, when a run under their key ends. -/
def freeAt {Key : Type} [DecidableEq Key] (key : Key)
    (counters : Dict Key Counters) : Dict Key Counters :=
  match counters.lookup key with
  | some kept => counters.insert key kept.free
  | none => counters

/-- `_release`: the manager and the lease after it. -/
def release (lease : RunLease) (manager : QuotaManager) : QuotaManager × RunLease :=
  if lease.released then (manager, lease)
  else
    ({ users := freeAt (lease.tenant, lease.user) manager.users
       tenants := freeAt lease.tenant manager.tenants },
      { lease with released := true })

def sumOverUsers (measure : Counters → Nat) (tenant : String) (manager : QuotaManager) : Nat :=
  manager.users.total measure (·.1 = tenant) {}

variable (tenant user : String) (clock : Int) (manager : QuotaManager)

@[simp] theorem rollUser_userCounters : (manager.rollUser tenant user clock).userCounters =
      Function.update manager.userCounters (tenant, user)
        ((manager.userCounters (tenant, user)).roll (dayOf clock)) := by
  simp [rollUser, userCounters]

@[simp] theorem rollUser_tenantCounters : (manager.rollUser tenant user clock).tenantCounters =
      manager.tenantCounters := by
  simp [rollUser, tenantCounters]

@[simp] theorem rollTenant_userCounters :
    (manager.rollTenant tenant clock).userCounters = manager.userCounters := by
  simp [rollTenant, userCounters]

@[simp] theorem rollTenant_tenantCounters : (manager.rollTenant tenant clock).tenantCounters =
      Function.update manager.tenantCounters tenant
        ((manager.tenantCounters tenant).roll (dayOf clock)) := by
  simp [rollTenant, tenantCounters]

@[simp] theorem take_userCounters : (manager.take tenant user).userCounters =
      Function.update manager.userCounters (tenant, user)
        (manager.userCounters (tenant, user)).take := by
  simp [take, userCounters]

@[simp] theorem take_tenantCounters :
    (manager.take tenant user).tenantCounters = Function.update manager.tenantCounters tenant
        (manager.tenantCounters tenant).take := by
  simp [take, tenantCounters]

theorem freeAt_valueAt {Key : Type} [DecidableEq Key] (key : Key) (counters : Dict Key Counters) :
    (freeAt key counters).valueAt {} =
      Function.update (counters.valueAt {}) key (counters.valueAt {} key).free := by
  unfold freeAt
  split
  · next kept isKept => simp [Dict.valueAt, isKept]
  · next missing =>
      have isFallback : counters.valueAt {} key = {} := by simp [Dict.valueAt, missing]
      have nothing : (counters.valueAt {} key).free = counters.valueAt {} key := by
        rw [isFallback]
        rfl
      rw [nothing, Function.update_eq_self]

end QuotaManager
end UrbanFlow
